import PodProbe.Unicode.Table

/-!
This module contains the bidirectional classes of the characters.
-/

namespace PodProbe.Unicode

/-- The bidirectional classes that the rules on names tell apart; `other` stands for all that no name may hold. -/
inductive BidiClass where
  | L
  | R
  | AL
  | AN
  | EN
  | ES
  | CS
  | ET
  | ON
  | BN
  | NSM
  | other
deriving DecidableEq, Repr

def BidiClass.ofText? : List Char → Option BidiClass
  | ['R'] => some R
  | ['A', 'L'] => some AL
  | ['A', 'N'] => some AN
  | ['E', 'N'] => some EN
  | ['E', 'S'] => some ES
  | ['C', 'S'] => some CS
  | ['E', 'T'] => some ET
  | ['O', 'N'] => some ON
  | ['B', 'N'] => some BN
  | ['N', 'S', 'M'] => some NSM
  | _ => some other

/-- The property `Bidi_Class`, where it is not L. -/
def bidiClasses : Table BidiClass := Table.ofText BidiClass.ofText? "
0.8BN 0.0X 0.0X 0.0X 0.0X 0.0X 0.dBN 0.2X 0.0X 0.0X 0.1ON 0.2ET 0.4ON 0.0ES 0.0CS 0.0ES 0.1CS 0.9EN 0.0CS 0.5ON
q.5ON q.3ON 0.5BN 0.0X 0.pBN 0.0CS 0.0ON 0.3ET 0.3ON 1.1ON 0.0BN 0.1ON 0.1ET 0.1EN 0.0ON 1.2ON 0.0EN 1.4ON n.0ON
v.0ON ch.1ON 7.dON 2.dON 5.8ON 1.gON 0.33NSM 4.1ON 8.0ON 5.1ON 1.0ON 32.0ON 3w.6NSM 74.0ON 2.1ON 0.0ET 0.0R
0.18NSM 0.0R 0.0NSM 0.0R 0.1NSM 0.0R 0.1NSM 0.0R 0.0NSM 0.1jR 0.5AN 0.1ON 0.0AL 0.1ET 0.0AL 0.0CS 0.0AL 0.1ON
0.aNSM 0.1bAL 0.kNSM 0.9AN 0.0ET 0.1AN 0.2AL 0.0NSM 0.2sAL 0.6NSM 0.0AN 0.0ON 0.5NSM 0.1AL 0.1NSM 0.0ON 0.3NSM
0.1AL 0.9EN 0.mAL 0.0NSM 0.tAL 0.qNSM 0.2iAL 0.aNSM 0.eAL 0.16R 0.8NSM 0.1R 0.3ON 0.2R 0.0NSM 0.nR 0.3NSM 0.0R
0.8NSM 0.0R 0.2NSM 0.0R 0.4NSM 0.16R 0.2NSM 0.3R 0.1bAL 0.1AN 0.4AL 0.8NSM 0.15AL 0.nNSM 0.0AN 0.vNSM 1j.0NSM
1.0NSM 4.7NSM 4.0NSM 3.6NSM a.1NSM t.0NSM 1m.0NSM 4.3NSM 8.0NSM k.1NSM e.1ET 7.0ET 2.0NSM 2.1NSM 1l.0NSM 4.1NSM
4.1NSM 2.2NSM 3.0NSM u.1NSM 3.0NSM b.1NSM 1l.0NSM 4.4NSM 1.1NSM 4.0NSM k.1NSM d.0ET 8.5NSM 1.0NSM 1m.0NSM 2.0NSM
1.3NSM 8.0NSM 7.1NSM b.1NSM u.0NSM 1p.0NSM c.0NSM 11.5ON 0.0ET 0.0ON 5.0NSM 3.0NSM 1j.0NSM 1.2NSM 5.2NSM 1.3NSM
7.1NSM b.1NSM k.6ON 2.0NSM 1m.0NSM f.1NSM k.1NSM s.1NSM 1l.1NSM 4.3NSM 8.0NSM k.1NSM t.0NSM 20.0NSM 7.2NSM
1.0NSM 2i.0NSM 2.6NSM 4.0ET 7.7NSM 2q.0NSM 2.8NSM b.6NSM 21.1NSM r.0NSM 1.0NSM 1.0NSM 0.3ON 1f.dNSM 1.4NSM
1.1NSM 5.aNSM 1.zNSM 9.0NSM 2u.3NSM 1.5NSM 1.1NSM 2.1NSM p.1NSM 4.2NSM g.3NSM d.0NSM 2.1NSM 6.0NSM f.0NSM
jj.2NSM 1c.9ON 2u.0ON hr.0X q.1ON 39.2NSM t.1NSM u.1NSM u.1NSM 1s.1NSM 1.6NSM 8.0NSM 2.aNSM 7.0ET 1.0NSM i.9ON
6.aON 0.2NSM 0.0BN 0.0NSM 39.1NSM y.0NSM 3a.2NSM 4.1NSM 9.0NSM 6.2NSM 4.0ON 3.1ON 48.xON n.1NSM 2.0NSM 1m.0NSM
1.6NSM 1.0NSM 1.0NSM 2.7NSM 6.9NSM 2.0NSM 1c.19NSM 2.bNSM k.3NSM 1c.0NSM 1.4NSM 1.0NSM 5.0NSM 14.8NSM c.1NSM
w.3NSM 2.1NSM 1.2NSM 1k.0NSM 1.1NSM 3.0NSM 1.2NSM 1m.7NSM 2.1NSM 48.2NSM 1.cNSM 1.6NSM 4.0NSM 6.0NSM 3.1NSM
5i.1rNSM cd.0ON 1.2ON b.2ON d.2ON d.2ON d.1ON 1.aX 0.2BN 1.0R 0.nON 0.0X 0.0X 0.0X 0.0X 0.0X 0.0X 0.0X 0.0CS
0.4ET 0.eON 0.0CS 0.pON 0.0X 0.5BN 0.0X 0.0X 0.0X 0.0X 0.5BN 0.0EN 3.5EN 0.1ES 0.2ON 1.9EN 0.1ES 0.2ON h.1bET
0.wNSM f.1ON 1.3ON 1.1ON a.0ON 1.2ON 5.5ON 1.0ON 1.0ON 1.0ON 4.0ET b.1ON 4.4ON 5.3ON 2.fON 15.2ON 4.3lON 0.0ES
0.0ET 0.81ON 1x.pON 1.40ON p.aON l.13ON 0.jEN 26.chON 1.9eON 74.hfON 2.vON 1.2wON 6d.5ON 4.2NSM 7.6ON 3j.0NSM
2o.vNSM 0.2lON y.pON 1.2gON c.5xON q.bON 4.0X 0.3ON 3.oON 9.3NSM 2.0ON 5.1ON 5.2ON 2h.1NSM 0.1ON 3.0ON 2i.0ON
5g.zON 1l.1ON 1d.fON s.2ON 1e.eON c.3ON 4n.3ON 2r.1ON v.0ON 534.1rON h3k.1iON 92.2ON 2n.3NSM 0.0ON 0.9NSM 0.1ON
u.1NSM 28.1NSM e.xON 2u.0ON 3d.0NSM 3.0NSM 4.0NSM p.1NSM 1.3ON 0.0NSM b.1ET 1m.3ON 24.1NSM q.hNSM d.0NSM 12.7NSM
p.aNSM 1a.2NSM 1c.0NSM 2.3NSM 2.1NSM 13.0NSM 1v.5NSM 2.1NSM 2.1NSM c.0NSM 8.0NSM 1b.0NSM 1f.0NSM 1.2NSM 2.1NSM
5.1NSM 1.0NSM 16.1NSM 8.0NSM 37.1ON 3d.0NSM 2.0NSM 4.0NSM fn3.0R 0.0NSM 0.9R 0.0ES 0.11R 0.dpAL 0.hON 0.3iAL
0.0ON 0.vBN 0.cAL 0.2ON 0.fNSM 0.9ON 6.fNSM 0.vON 0.0CS 0.0ON 0.0CS 1.0ON 0.0CS 0.8ON 0.0ET 0.1ON 0.1ES 0.2ON
1.0ON 0.1ET 0.0ON 4.3yAL 0.0BN 1.1ON 0.2ET 0.4ON 0.0ES 0.0CS 0.0ES 0.1CS 0.9EN 0.0CS 0.5ON q.5ON q.aON 3e.1ET
0.2ON 0.1ET 1.6ON 1.8BN 0.4ON 0.1BN 75.0ON 1q.24ON 3.cON 3.0ON 2k.0NSM 6a.0NSM 0.qEN 3e.4NSM w5.7yR 0.0ON 0.68R
0.2NSM 0.0R 0.1NSM 0.4R 0.3NSM 0.13R 0.2NSM 0.3R 0.0NSM 0.4kR 0.1NSM 0.29R 0.6ON 0.cfR 0.zAL 0.3NSM 0.7AL 0.9AN
0.5AL 0.14R 0.4NSM 0.6pR 0.uAN 0.17R 0.1NSM 0.iR 0.1lAL 0.5NSM 0.1bR 0.lAL 0.aNSM 0.uAL 0.hR 0.3NSM 0.3dR 1.0NSM
1i.eNSM b.jON a.0NSM 2.1NSM a.2NSM 1d.3NSM 2.1NSM 7.0NSM 1p.2NSM 10.4NSM 1.7NSM 1q.0NSM c.1NSM 1g.8NSM a.3NSM
2.0NSM 2n.2NSM 2.0NSM 1.1NSM 6.0NSM 2.0NSM 4d.0NSM 3.7NSM l.1NSM 1l.1NSM 3.0NSM 11.6NSM 3.4NSM 1y.5NSM d.0NSM
1.0NSM 1.0NSM e.1NSM 2d.7NSM 2.2NSM 1.0NSM n.0NSM 2c.5NSM 1.0NSM 4.1NSM 1.1NSM 6m.3NSM 6.1NSM 1.1NSM r.1NSM
2d.7NSM 2.0NSM 1.1NSM v.cON 1q.0NSM 1.0NSM 2.5NSM 1.0NSM 2t.2NSM 2.3NSM 1.4NSM 77.8NSM 1.1NSM 74.1NSM 1.0NSM
4.0NSM 40.3NSM 2.1NSM 4.0NSM w.5NSM 2.1NSM 14.5NSM 2.3NSM 8.0NSM 9.5NSM 2.2NSM 1a.cNSM 1.1NSM 5i.0NSM 1.2NSM
1.0NSM 5l.6NSM 1.5NSM 2c.lNSM 2.6NSM 1.1NSM 1.1NSM 3e.5NSM 3.0NSM 1.1NSM 1.6NSM 1.0NSM 20.1NSM 3.0NSM 1.0NSM
9n.1NSM b.1NSM 1g.4NSM 5.0NSM 1.0NSM n.0NSM 3e.7ON 0.3ET 0.gON 40e.0NSM 6.eNSM 8ug.bNSM 3.2NSM 1xc.4NSM 1n.6NSM
t4.0NSM 1r.3NSM 27.0ON 1.0NSM f5k.1NSM 1.3BN 3mk.19NSM 2.mNSM f4.2NSM 9.7BN 0.7NSM 2.6NSM u.3NSM 1n.1ON l.1tON
0.2NSM 0.0ON 56.2eON p0.0ON 1l.0ON 1l.0ON 1l.0ON 1l.0ON a.1dEN e8.1iNSM 4.1dNSM 8.0NSM e.0NSM m.4NSM 1.eNSM
11s.6NSM 1.gNSM 2.6NSM 1.1NSM 1.4NSM 2s.0NSM 4g.6NSM af.0NSM 1p.3NSM f.0ET do.3NSM 72.1NSM 6r.0NSM 2.0NSM 7.1NSM
5.0NSM 7e.5rR 0.6NSM 0.30R 0.6NSM 0.mcR 0.27AL 0.1rR 0.27AL 0.4vR 0.6nAL 0.1ON 0.dAL 0.73R 0.17ON 4.2rON c.eON
2.eON 1.eON 1.10ON a.aEN 0.4ON v.0ON 1m.5ON 1p.0ON 4y.5ON 4a.rbON 4.gON 3.cON 3.3aON 4.2mON 6.bON 4.0ON f.bON
4.1jON 8.9ON 6.13ON 8.tON 2.1ON 26.9fON c.dON 2.cON 3.8ON 7.19ON 1.6ON 8.dON 4.8ON 7.8ON 7.42ON 1.1iON 11.9EN
sk.1BN 1eke.1BN 1eke.1BN 1eke.1BN 1eke.1BN 1eke.1BN 1eke.1BN 1eke.1BN 1eke.1BN 1eke.1BN 1eke.1BN 1eke.1BN
1eke.75BN 0.6nNSM 0.2rzBN 1bem.1BN 1eke.1BN 1eke.1BN
"

def bidiClass (c : Char) : BidiClass :=
  (bidiClasses.find? c.toNat).getD .L

end PodProbe.Unicode
