import PodProbe.Unicode.Table

/-!
This module contains the joining types of the characters of cursive scripts.
-/

namespace PodProbe.Unicode

inductive JoiningType where
  | left
  | right
  | dual
  | transparent
  | none
deriving DecidableEq, Repr

def JoiningType.ofText? : List Char → Option JoiningType
  | ['L'] => some left
  | ['R'] => some right
  | ['D'] => some dual
  | ['T'] => some transparent
  | _ => some none

/-- The property `Joining_Type`, where it is L, R, D or T. -/
def joiningTypes : Table JoiningType := Table.ofText JoiningType.ofText? "
4t.0T gi.33T 7n.6T 7b.18T 1.0T 1.1T 1.1T 1.0T 20.aT 1.0T 3.0D 1.3R 0.0D 0.0R 0.0D 0.0R 0.4D 0.3R 0.cD 1.6D 0.0R
0.1D 0.kT e.1D 0.0T 0.2R 1.2R 0.fD 0.hR 0.11D 0.0R 0.1D 0.8R 0.0D 0.0R 0.0D 0.0R 0.1D 0.1R 1.0R 0.6T 2.5T 2.1T
1.3T 0.1R a.2D 2.0D f.0T 0.0R 0.0T 0.2D 0.4R 0.3D 0.0R 0.8D 0.0R 0.0D 0.0R 0.0D 0.0R 0.1D 0.0R 0.qT 2.0R 0.aD
0.2R 0.eD 0.1R 0.3D 0.0R 0.0D 0.1R 0.2D 0.1R 0.5D 12.aT p.wD 0.8T 9.0T o.3T 1.8T 1.2T 1.4T i.0R 0.4D 0.1R 0.0D
0.0R 0.9D 0.0R 0.0D 0.2R 0.2T 4.0D 1.3D 1.0R 0.0D 0.1R 5.iR 3.0D 2.4D 0.0R 0.0D 7.8T 0.9D 0.2R 1.0R 0.1D 0.1R
0.5D 0.0R 0.eD 1.nT 1.vT 1j.0T 1.0T 4.7T 4.0T 3.6T a.1T t.0T 1m.0T 4.3T 8.0T k.1T q.0T 2.1T 1l.0T 4.1T 4.1T 2.2T
3.0T u.1T 3.0T b.1T 1l.0T 4.4T 1.1T 4.0T k.1T m.5T 1.0T 1m.0T 2.0T 1.3T 8.0T 7.1T b.1T u.0T 1p.0T c.0T 1e.0T
3.0T 1j.0T 1.2T 5.2T 1.3T 7.1T b.1T t.0T 1m.0T 2.0T 6.0T 5.1T k.1T s.1T 1l.1T 4.3T 8.0T k.1T t.0T 20.0T 7.2T
1.0T 2i.0T 2.6T c.7T 2q.0T 2.8T b.6T 21.1T r.0T 1.0T 1.0T 1j.dT 1.4T 1.1T 5.aT 1.zT 9.0T 2u.3T 1.5T 1.1T 2.1T
p.1T 4.2T g.3T d.0T 2.1T 6.0T f.0T jj.2T qa.2T t.1T u.1T u.1T 1s.1T 1.6T 8.0T 2.aT 9.0T 15.0D 3.2T 1.0T g.2gD
c.1T 0.xD 0.0T 0.0D 39.2T 4.1T 9.0T 6.2T 63.1T 2.0T 1m.0T 1.6T 1.0T 1.0T 2.7T 6.9T 2.0T 1c.19T 2.bT k.3T 1c.0T
1.4T 1.0T 5.0T 14.8T c.1T w.3T 2.1T 1.2T 1k.0T 1.1T 3.0T 1.2T 1m.7T 2.1T 48.2T 1.cT 1.6T 4.0T 6.0T 3.1T 5i.1rT
ej.0T 2.1T q.4T 1d.4T 5.5T 2o.wT 2da.2T 3x.0T 2o.vT fe.3T 2z.1T n9w.3T 1.9T w.1T 28.1T 7k.0T 3.0T 4.0T p.1T 5.0T
j.1dD 0.0L 29.1T q.hT d.0T 12.7T p.aT 1a.2T 1c.0T 2.3T 2.1T 13.0T 1v.5T 2.1T 2.1T c.0T 8.0T 1b.0T 1f.0T 1.2T
2.1T 5.1T 1.0T 16.1T 8.0T 6m.0T 2.0T 4.0T fn4.0T kh.fT g.fT 5r.0T 6x.2T e9.0T 6a.0T 45.4T 1ae.2T 1.1T 5.3T 14.2T
4.0T 3k.4D 0.0R 1.0R 1.1R 2.0L 0.4R 0.3D 0.0L 0.4D 0.0R 0.2D 0.0R 2.0R 0.1T 4.3D 0.0R 40.0D 0.0R 0.0D 0.2R 0.2D
0.0R 0.1D 0.0R 0.0D 0.1R 0.0D 0.0R n.3R 0.1D 9d.0L 0.wD 0.0R 0.0D 0.3T 1t.4T 8t.1T l.0R 0.1D 1.1D 1e.5T 1c.2D
0.0R 0.gD 1.aT 0.2D 0.0R r.3D 0.1R 0.bD 0.3T 16.0D 1.1D 0.2R 1.0D 0.1R 0.1D 0.0R 0.1D 1.0D 0.1R 0.0D 4.0R 0.0D
0.0L 1h.0T 1i.eT 15.0T 2.1T a.2T 1d.3T 2.1T 7.0T 1p.2T 10.4T 1.7T 1q.0T c.1T 1g.8T a.3T 2.0T 2n.2T 2.0T 1.1T
6.0T 2.0T 4d.0T 3.7T l.1T 1l.1T 3.0T 11.6T 3.4T 1y.5T d.0T 1.0T 1.0T e.1T 2d.7T 2.2T 1.0T n.0T 2c.5T 1.0T 4.1T
1.1T 6m.3T 6.1T 1.1T r.1T 2d.7T 2.0T 1.1T 2y.0T 1.0T 2.5T 1.0T 2t.0T 1.0T 2.3T 1.4T 77.8T 1.1T 74.1T 1.0T 4.0T
40.3T 2.1T 4.0T w.9T 14.5T 2.3T 8.0T 9.5T 2.2T 1a.cT 1.1T 5i.0T 1.2T 1.0T 5l.6T 1.5T 1.0T 2a.lT 2.6T 1.1T 1.1T
3e.5T 3.0T 1.1T 1.6T 1.0T 20.1T 3.0T 1.0T 9n.1T b.1T 1g.4T 5.0T 1.0T n.0T 445.gT 6.eT 8ug.bT 3.2T 1xc.4T 1n.6T
t4.0T 1r.3T 29.0T f5k.1T 1.3T 3mk.19T 2.mT f4.2T 9.fT 2.6T u.3T 44.2T 1iz.1iT 4.1dT 8.0T e.0T m.4T 1.eT 11s.6T
1.gT 2.6T 1.1T 1.4T 2s.0T 4g.6T af.0T 1p.3T e4.3T 72.1T 6r.0T 2.0T 7.1T 5.0T d6.6T 15.1vD 0.7T gzat.0T u.2nT
3k.6nT
"

def joiningType (c : Char) : JoiningType :=
  (joiningTypes.find? c.toNat).getD .none

end PodProbe.Unicode
