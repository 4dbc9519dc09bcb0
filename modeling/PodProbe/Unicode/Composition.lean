import PodProbe.Unicode.Table

/-!
This module contains the data of the canonical composition of characters: which character is made of which two, and
in which order marks follow a letter.
-/

namespace PodProbe.Unicode

/-- The property `Canonical_Combining_Class`, where it is not zero. -/
def combiningClasses : Table Nat := Table.ofText number? "
lc.k:6e 0.0:6g 0.3:64 0.0:6g 0.0:60 0.4:64 0.1:5m 0.3:64 0.1:5m 0.a:64 0.4:1 0.3:64 0.7:6e 0.0:6o 0.0:6e 0.2:64
0.2:6e 0.1:64 1.2:6e 0.3:64 0.0:6e 0.0:6g 0.1:64 0.0:6e 0.0:6h 0.1:6i 0.0:6h 0.1:6i 0.0:6h 0.c:6e 7n.4:6e
7d.0:64 0.3:6e 0.0:64 0.2:6e 0.0:66 0.0:64 0.5:6e 0.5:64 0.1:6e 0.0:64 0.1:6e 0.0:66 0.0:6c 0.0:6e 0.0:a 0.0:b
0.0:c 0.0:d 0.0:e 0.0:f 0.0:g 0.0:h 0.0:i 0.1:j 0.0:k 0.0:l 0.0:m 1.0:n 1.0:o 0.0:p 1.0:6e 0.0:64 1.0:i 20.7:6e
0.0:u 0.0:v 0.0:w 1c.0:r 0.0:s 0.0:t 0.0:u 0.0:v 0.0:w 0.0:x 0.0:y 0.1:6e 0.1:64 0.4:6e 0.0:64 0.1:6e 0.0:64
g.0:z 2t.6:6e 2.3:6e 0.0:64 0.0:6e 2.1:6e 1.0:64 0.1:6e 0.0:64 z.0:10 u.0:6e 0.0:64 0.1:6e 0.0:64 0.1:6e 0.2:64
0.0:6e 0.1:64 0.0:6e 0.0:64 0.2:6e 0.0:64 0.0:6e 0.0:64 0.0:6e 0.0:64 0.0:6e 0.0:64 0.1:6e 4g.6:6e 0.0:64 0.0:6e
9.0:64 o.3:6e 1.8:6e 1.2:6e 1.4:6e 17.2:64 1n.1:6e 0.2:64 0.3:6e 16.4:6e 0.4:64 0.d:6e 1.0:64 0.1:6e 0.0:64
0.1:6e 0.0:64 0.2:6e 0.2:64 0.0:r 0.0:s 0.0:t 0.2:6e 0.0:64 0.1:6e 0.1:64 0.4:6e 1o.0:7 g.0:9 3.0:6e 0.0:64
0.1:6e 2v.0:7 g.0:9 1c.0:6e 1p.0:7 g.0:9 32.0:7 g.0:9 32.0:7 g.0:9 3j.0:9 32.0:7 g.0:9 7.0:2c 0.0:2j 2t.0:7
g.0:9 31.1:9 g.0:9 3g.0:9 31.1:2v 0.0:9 d.3:2z 30.1:3a 0.0:9 d.3:3e 24.1:64 r.0:64 1.0:64 1.0:60 1j.0:3l 0.0:3m
1.0:3o 5.3:3m 2.0:3m 1.1:6e 0.0:9 1.1:6e 1q.0:64 34.0:7 1.1:9 2a.0:64 jz.2:6e qc.1:9 u.0:9 4d.0:9 a.0:6e 5n.0:6c
3z.0:66 0.0:6e 0.0:64 63.0:6e 0.0:64 1z.0:9 k.7:6e 2.0:64 1c.4:6e 0.5:64 0.1:6e 0.0:64 1.1:64 0.1:6e 0.1:64
0.4:6e 0.0:64 0.h:6e 0.0:64 2.5:6e 0.0:64 0.3:6e 0.0:6i 20.0:7 f.0:9 12.0:6e 0.0:64 0.6:6e 1i.1:9 1m.0:7 b.1:9
1v.0:7 48.2:6e 1.0:1 0.4:64 0.1:6e 0.3:64 0.0:6e 1.6:1 4.0:64 6.0:6e 3.1:6e 5i.1:6e 0.0:64 0.6:6e 0.0:64 0.1:6e
0.0:6i 0.0:5y 0.0:64 0.0:5m 0.10:6e 0.0:6g 0.1:6c 0.0:64 0.0:62 0.0:6e 0.0:6h 0.0:64 0.0:6e 0.0:64 k0.1:6e 0.1:1
0.3:6e 0.2:1 0.1:6e 4.0:6e 3.1:1 0.0:6e 0.0:64 0.0:6e 0.1:1 0.3:64 0.0:6e 2da.2:6e 3x.0:9 2o.v:6e fe.0:62 0.0:6c
0.0:6g 0.0:66 0.1:68 2x.1:8 n9w.0:6e 4.9:6e w.1:6e 28.1:6e 7o.0:9 11.0:9 47.0:9 r.h:6e 1l.2:64 11.0:9 2n.0:7
c.0:9 6n.0:6e 1.1:6e 0.0:64 2.1:6e 5.1:6e 1.0:6e 1g.0:9 6u.0:9 fn4.0:q ld.6:6e 0.6:64 0.1:6e r1.0:64 6a.0:64
45.4:6e 1aq.0:64 1.0:6e 14.0:6e 0.0:1 0.0:64 4.0:9 4l.0:6e 0.0:64 fx.3:6e 1t.4:6e 8t.1:6e 25.1:64 1.2:64 1y.1:64
0.2:6e 0.0:64 0.0:6e 0.3:64 1d.0:6e 0.0:64 0.0:6e 0.0:64 5c.0:9 15.0:9 e.0:9 1l.0:9 0.0:7 1x.2:6e 1c.1:9 1q.0:7
24.0:9 9.0:7 2y.0:9 0.0:7 4y.0:7 0.0:9 28.1:7 g.0:9 o.6:6e 3.4:6e 2h.2:9 35.0:9 3.0:7 n.0:6e 2r.0:9 0.0:7 6z.0:9
0.0:7 3i.0:9 3a.0:9 0.0:7 37.0:9 7h.0:9 0.0:7 76.1:9 4.0:7 4c.0:9 2b.0:9 i.0:9 29.0:9 bp.0:9 76.0:7 1.1:9 29.0:9
bt.1:9 d0s.0:9 1xc.4:1 1n.6:6e xl.1:6 f58.0:1 43q.1:60 0.2:1 3.0:6a 0.4:60 8.7:64 2.4:6e 0.1:64 u.3:6e 44.2:6e
2pn.6:6e 1.g:6e 2.6:6e 1.1:6e 1.4:6e 2s.0:6e 4g.6:6e af.0:6e 1p.3:6e e4.1:6g 0.0:64 0.0:6e 72.0:6e 0.0:64
6r.0:6e 2.0:6e 7.1:6e 5.0:6e d6.6:64 31.5:6e 0.0:7
"

def compositions : Table (Nat × Nat) := Table.ofText pair? "
5c.0=1t,lc 0.0=1t,ld 0.0=1t,le 0.0=1t,lf 0.0=1t,lk 0.0=1t,lm 1.0=1v,mf 0.0=1x,lc 0.0=1x,ld 0.0=1x,le 0.0=1x,lk
0.0=21,lc 0.0=21,ld 0.0=21,le 0.0=21,lk 1.0=26,lf 0.0=27,lc 0.0=27,ld 0.0=27,le 0.0=27,lf 0.0=27,lk 2.0=2d,lc
0.0=2d,ld 0.0=2d,le 0.0=2d,lk 0.0=2h,ld 2.0=2p,lc 0.0=2p,ld 0.0=2p,le 0.0=2p,lf 0.0=2p,lk 0.0=2p,lm 1.0=2r,mf
0.0=2t,lc 0.0=2t,ld 0.0=2t,le 0.0=2t,lk 0.0=2x,lc 0.0=2x,ld 0.0=2x,le 0.0=2x,lk 1.0=32,lf 0.0=33,lc 0.0=33,ld
0.0=33,le 0.0=33,lf 0.0=33,lk 2.0=39,lc 0.0=39,ld 0.0=39,le 0.0=39,lk 0.0=3d,ld 1.0=3d,lk 0.0=1t,lg 0.0=2p,lg
0.0=1t,li 0.0=2p,li 0.0=1t,mg 0.0=2p,mg 0.0=1v,ld 0.0=2r,ld 0.0=1v,le 0.0=2r,le 0.0=1v,lj 0.0=2r,lj 0.0=1v,lo
0.0=2r,lo 0.0=1w,lo 0.0=2s,lo 2.0=1x,lg 0.0=2t,lg 0.0=1x,li 0.0=2t,li 0.0=1x,lj 0.0=2t,lj 0.0=1x,mg 0.0=2t,mg
0.0=1x,lo 0.0=2t,lo 0.0=1z,le 0.0=2v,le 0.0=1z,li 0.0=2v,li 0.0=1z,lj 0.0=2v,lj 0.0=1z,mf 0.0=2v,mf 0.0=20,le
0.0=2w,le 2.0=21,lf 0.0=2x,lf 0.0=21,lg 0.0=2x,lg 0.0=21,li 0.0=2x,li 0.0=21,mg 0.0=2x,mg 0.0=21,lj 3.0=22,le
0.0=2y,le 0.0=23,mf 0.0=2z,mf 1.0=24,ld 0.0=30,ld 0.0=24,mf 0.0=30,mf 0.0=24,lo 0.0=30,lo 4.0=26,ld 0.0=32,ld
0.0=26,mf 0.0=32,mf 0.0=26,lo 0.0=32,lo 3.0=27,lg 0.0=33,lg 0.0=27,li 0.0=33,li 0.0=27,ln 0.0=33,ln 2.0=2a,ld
0.0=36,ld 0.0=2a,mf 0.0=36,mf 0.0=2a,lo 0.0=36,lo 0.0=2b,ld 0.0=37,ld 0.0=2b,le 0.0=37,le 0.0=2b,mf 0.0=37,mf
0.0=2b,lo 0.0=37,lo 0.0=2c,mf 0.0=38,mf 0.0=2c,lo 0.0=38,lo 2.0=2d,lf 0.0=39,lf 0.0=2d,lg 0.0=39,lg 0.0=2d,li
0.0=39,li 0.0=2d,lm 0.0=39,lm 0.0=2d,ln 0.0=39,ln 0.0=2d,mg 0.0=39,mg 0.0=2f,le 0.0=3b,le 0.0=2h,le 0.0=3d,le
0.0=2h,lk 0.0=2i,ld 0.0=3e,ld 0.0=2i,lj 0.0=3e,lj 0.0=2i,lo 0.0=3e,lo x.0=27,m3 0.0=33,m3 d.0=2d,m3 0.0=39,m3
s.0=1t,lo 0.0=2p,lo 0.0=21,lo 0.0=2x,lo 0.0=27,lo 0.0=33,lo 0.0=2d,lo 0.0=39,lo 0.0=64,lg 0.0=70,lg 0.0=64,ld
0.0=70,ld 0.0=64,lo 0.0=70,lo 0.0=64,lc 0.0=70,lc 1.0=5g,lg 0.0=6c,lg 0.0=fa,lg 0.0=fb,lg 0.0=5i,lg 0.0=6e,lg
2.0=1z,lo 0.0=2v,lo 0.0=23,lo 0.0=2z,lo 0.0=27,mg 0.0=33,mg 0.0=dm,lg 0.0=dn,lg 0.0=c7,lo 0.0=ia,lo 0.0=2y,lo
3.0=1z,ld 0.0=2v,ld 2.0=26,lc 0.0=32,lc 0.0=5h,ld 0.0=6d,ld 0.0=5i,ld 0.0=6e,ld 0.0=60,ld 0.0=6w,ld 0.0=1t,lr
0.0=2p,lr 0.0=1t,lt 0.0=2p,lt 0.0=1x,lr 0.0=2t,lr 0.0=1x,lt 0.0=2t,lt 0.0=21,lr 0.0=2x,lr 0.0=21,lt 0.0=2x,lt
0.0=27,lr 0.0=33,lr 0.0=27,lt 0.0=33,lt 0.0=2a,lr 0.0=36,lr 0.0=2a,lt 0.0=36,lt 0.0=2d,lr 0.0=39,lr 0.0=2d,lt
0.0=39,lt 0.0=2b,me 0.0=37,me 0.0=2c,me 0.0=38,me 2.0=20,lo 0.0=2w,lo 6.0=1t,lj 0.0=2p,lj 0.0=1x,mf 0.0=2t,mf
0.0=5y,lg 0.0=6u,lg 0.0=5x,lg 0.0=6t,lg 0.0=27,lj 0.0=33,lj 0.0=fi,lg 0.0=fj,lg 0.0=2h,lg 0.0=3d,lg 9d.0=4o,ld
0.0=pd,ld 1.0=ph,ld 0.0=pj,ld 0.0=pl,ld 1.0=pr,ld 1.0=px,ld 0.0=q1,ld 0.0=qy,ld p.0=pl,lk 0.0=px,lk 0.0=q9,ld
0.0=qd,ld 0.0=qf,ld 0.0=qh,ld 0.0=qz,ld p.0=qh,lk 0.0=qt,lk 0.0=qn,ld 0.0=qt,ld 0.0=qx,ld 4.0=r6,ld 0.0=r6,lk
17.0=t1,lc 0.0=t1,lk 1.0=sz,ld 3.0=sm,lk 4.0=t6,ld 0.0=t4,lc 0.0=tf,li a.0=t4,li v.0=u0,li m.0=tx,lc 0.0=tx,lk
1.0=tv,ld 3.0=uu,lk 4.0=u2,ld 0.0=u0,lc 0.0=ub,li n.0=vo,lr 0.0=vp,lr 21.0=t2,li 0.0=ty,li d.0=sw,li 0.0=ts,li
0.0=sw,lk 0.0=ts,lk 2.0=t1,li 0.0=tx,li 2.0=yg,lk 0.0=yh,lk 0.0=t2,lk 0.0=ty,lk 0.0=t3,lk 0.0=tz,lk 2.0=t4,lg
0.0=u0,lg 0.0=t4,lk 0.0=u0,lk 0.0=ta,lk 0.0=u6,lk 2.0=yw,lk 0.0=yx,lk 0.0=tp,lk 0.0=ul,lk 0.0=tf,lg 0.0=ub,lg
0.0=tf,lk 0.0=ub,lk 0.0=tf,ln 0.0=ub,ln 0.0=tj,lk 0.0=uf,lk 2.0=tn,lk 0.0=uj,lk 88.0=17r,18z 0.0=17r,190
0.0=18o,190 0.0=17r,191 0.0=18q,190 49.0=1cl,190 1.0=1c1,190 g.0=1ci,190 gl.0=1t4,1to 7.0=1tc,1to 2.0=1tf,1to
46.0=1xj,1xa 0.0=1xj,1xz aj.0=287,28m 2.0=287,27y 0.0=287,28n 1z.0=2aa,2c7 1h.0=2bq,2bi 0.0=2br,2bi 0.0=2bq,2c7
3f.0=2fa,2fq 3b.0=2in,2j9 6.0=2iu,2j9 0.0=2iu,2ja 1.0=2iu,2iq 0.0=2iy,2j9 3i.0=2me,2m6 0.0=2mf,2m6 0.0=2me,2mv
3x.0=2qh,2q2 1.0=2qh,2q7 0.0=2qk,2q2 0.0=2qh,2qn g7.0=36t,372 25b.0=5c5,5dh 1.0=5c7,5dh 1.0=5c9,5dh 1.0=5cb,5dh
1.0=5cd,5dh 3.0=5ch,5dh 14.0=5dm,5dh 1.0=5do,5dh 2.0=5dq,5dh 0.0=5dr,5dh 1.0=5du,5dh jg.0=1t,md 0.0=2p,md
0.0=1u,lj 0.0=2q,lj 0.0=1u,mb 0.0=2q,mb 0.0=1u,mp 0.0=2q,mp 0.0=5j,ld 0.0=6f,ld 0.0=1w,lj 0.0=2s,lj 0.0=1w,mb
0.0=2s,mb 0.0=1w,mp 0.0=2s,mp 0.0=1w,mf 0.0=2s,mf 0.0=1w,ml 0.0=2s,ml 0.0=7m,lc 0.0=7n,lc 0.0=7m,ld 0.0=7n,ld
0.0=1x,ml 0.0=2t,ml 0.0=1x,mo 0.0=2t,mo 0.0=fc,li 0.0=fd,li 0.0=1y,lj 0.0=2u,lj 0.0=1z,lg 0.0=2v,lg 0.0=20,lj
0.0=2w,lj 0.0=20,mb 0.0=2w,mb 0.0=20,lk 0.0=2w,lk 0.0=20,mf 0.0=2w,mf 0.0=20,mm 0.0=2w,mm 0.0=21,mo 0.0=2x,mo
0.0=5r,ld 0.0=6n,ld 0.0=23,ld 0.0=2z,ld 0.0=23,mb 0.0=2z,mb 0.0=23,mp 0.0=2z,mp 0.0=24,mb 0.0=30,mb 0.0=5yu,lg
0.0=5yv,lg 0.0=24,mp 0.0=30,mp 0.0=24,ml 0.0=30,ml 0.0=25,ld 0.0=31,ld 0.0=25,lj 0.0=31,lj 0.0=25,mb 0.0=31,mb
0.0=26,lj 0.0=32,lj 0.0=26,mb 0.0=32,mb 0.0=26,mp 0.0=32,mp 0.0=26,ml 0.0=32,ml 0.0=5x,ld 0.0=6t,ld 0.0=5x,lk
0.0=6t,lk 0.0=98,lc 0.0=99,lc 0.0=98,ld 0.0=99,ld 0.0=28,ld 0.0=34,ld 0.0=28,lj 0.0=34,lj 0.0=2a,lj 0.0=36,lj
0.0=2a,mb 0.0=36,mb 0.0=5zu,lg 0.0=5zv,lg 0.0=2a,mp 0.0=36,mp 0.0=2b,lj 0.0=37,lj 0.0=2b,mb 0.0=37,mb 0.0=9m,lj
0.0=9n,lj 0.0=9s,lj 0.0=9t,lj 0.0=602,lj 0.0=603,lj 0.0=2c,lj 0.0=38,lj 0.0=2c,mb 0.0=38,mb 0.0=2c,mp 0.0=38,mp
0.0=2c,ml 0.0=38,ml 0.0=2d,mc 0.0=39,mc 0.0=2d,mo 0.0=39,mo 0.0=2d,ml 0.0=39,ml 0.0=a0,ld 0.0=a1,ld 0.0=a2,lk
0.0=a3,lk 0.0=2e,lf 0.0=3a,lf 0.0=2e,mb 0.0=3a,mb 0.0=2f,lc 0.0=3b,lc 0.0=2f,ld 0.0=3b,ld 0.0=2f,lk 0.0=3b,lk
0.0=2f,lj 0.0=3b,lj 0.0=2f,mb 0.0=3b,mb 0.0=2g,lj 0.0=3c,lj 0.0=2g,lk 0.0=3c,lk 0.0=2h,lj 0.0=3d,lj 0.0=2i,le
0.0=3e,le 0.0=2i,mb 0.0=3e,mb 0.0=2i,mp 0.0=3e,mp 0.0=2w,mp 0.0=38,lk 0.0=3b,lm 0.0=3d,lm 1.0=an,lj 4.0=1t,mb
0.0=2p,mb 0.0=1t,ll 0.0=2p,ll 0.0=5e,ld 0.0=6a,ld 0.0=5e,lc 0.0=6a,lc 0.0=5e,ll 0.0=6a,ll 0.0=5e,lf 0.0=6a,lf
0.0=61s,le 0.0=61t,le 0.0=76,ld 0.0=77,ld 0.0=76,lc 0.0=77,lc 0.0=76,ll 0.0=77,ll 0.0=76,lf 0.0=77,lf 0.0=61s,li
0.0=61t,li 0.0=1x,mb 0.0=2t,mb 0.0=1x,ll 0.0=2t,ll 0.0=1x,lf 0.0=2t,lf 0.0=5m,ld 0.0=6i,ld 0.0=5m,lc 0.0=6i,lc
0.0=5m,ll 0.0=6i,ll 0.0=5m,lf 0.0=6i,lf 0.0=62g,le 0.0=62h,le 0.0=21,ll 0.0=2x,ll 0.0=21,mb 0.0=2x,mb 0.0=27,mb
0.0=33,mb 0.0=27,ll 0.0=33,ll 0.0=5w,ld 0.0=6s,ld 0.0=5w,lc 0.0=6s,lc 0.0=5w,ll 0.0=6s,ll 0.0=5w,lf 0.0=6s,lf
0.0=630,le 0.0=631,le 0.0=bk,ld 0.0=bl,ld 0.0=bk,lc 0.0=bl,lc 0.0=bk,ll 0.0=bl,ll 0.0=bk,lf 0.0=bl,lf 0.0=bk,mb
0.0=bl,mb 0.0=2d,mb 0.0=39,mb 0.0=2d,ll 0.0=39,ll 0.0=bz,ld 0.0=c0,ld 0.0=bz,lc 0.0=c0,lc 0.0=bz,ll 0.0=c0,ll
0.0=bz,lf 0.0=c0,lf 0.0=bz,mb 0.0=c0,mb 0.0=2h,lc 0.0=3d,lc 0.0=2h,mb 0.0=3d,mb 0.0=2h,ll 0.0=3d,ll 0.0=2h,lf
0.0=3d,lf 6.0=q9,lv 0.0=q9,lw 0.0=64g,lc 0.0=64h,lc 0.0=64g,ld 0.0=64h,ld 0.0=64g,n6 0.0=64h,n6 0.0=pd,lv
0.0=pd,lw 0.0=64o,lc 0.0=64p,lc 0.0=64o,ld 0.0=64p,ld 0.0=64o,n6 0.0=64p,n6 0.0=qd,lv 0.0=qd,lw 0.0=64w,lc
0.0=64x,lc 0.0=64w,ld 0.0=64x,ld 2.0=ph,lv 0.0=ph,lw 0.0=654,lc 0.0=655,lc 0.0=654,ld 0.0=655,ld 2.0=qf,lv
0.0=qf,lw 0.0=65c,lc 0.0=65d,lc 0.0=65c,ld 0.0=65d,ld 0.0=65c,n6 0.0=65d,n6 0.0=pj,lv 0.0=pj,lw 0.0=65k,lc
0.0=65l,lc 0.0=65k,ld 0.0=65l,ld 0.0=65k,n6 0.0=65l,n6 0.0=qh,lv 0.0=qh,lw 0.0=65s,lc 0.0=65t,lc 0.0=65s,ld
0.0=65t,ld 0.0=65s,n6 0.0=65t,n6 0.0=pl,lv 0.0=pl,lw 0.0=660,lc 0.0=661,lc 0.0=660,ld 0.0=661,ld 0.0=660,n6
0.0=661,n6 0.0=qn,lv 0.0=qn,lw 0.0=668,lc 0.0=669,lc 0.0=668,ld 0.0=669,ld 2.0=pr,lv 0.0=pr,lw 0.0=66g,lc
0.0=66h,lc 0.0=66g,ld 0.0=66h,ld 2.0=qt,lv 0.0=qt,lw 0.0=66o,lc 0.0=66p,lc 0.0=66o,ld 0.0=66p,ld 0.0=66o,n6
0.0=66p,n6 1.0=px,lw 1.0=66x,lc 1.0=66x,ld 1.0=66x,n6 0.0=qx,lv 0.0=qx,lw 0.0=674,lc 0.0=675,lc 0.0=674,ld
0.0=675,ld 0.0=674,n6 0.0=675,n6 0.0=q1,lv 0.0=q1,lw 0.0=67c,lc 0.0=67d,lc 0.0=67c,ld 0.0=67d,ld 0.0=67c,n6
0.0=67d,n6 0.0=q9,lc 1.0=qd,lc 1.0=qf,lc 1.0=qh,lc 1.0=qn,lc 1.0=qt,lc 1.0=qx,lc 3.0=64g,n9 0.0=64h,n9
0.0=64i,n9 0.0=64j,n9 0.0=64k,n9 0.0=64l,n9 0.0=64m,n9 0.0=64n,n9 0.0=64o,n9 0.0=64p,n9 0.0=64q,n9 0.0=64r,n9
0.0=64s,n9 0.0=64t,n9 0.0=64u,n9 0.0=64v,n9 0.0=65c,n9 0.0=65d,n9 0.0=65e,n9 0.0=65f,n9 0.0=65g,n9 0.0=65h,n9
0.0=65i,n9 0.0=65j,n9 0.0=65k,n9 0.0=65l,n9 0.0=65m,n9 0.0=65n,n9 0.0=65o,n9 0.0=65p,n9 0.0=65q,n9 0.0=65r,n9
0.0=674,n9 0.0=675,n9 0.0=676,n9 0.0=677,n9 0.0=678,n9 0.0=679,n9 0.0=67a,n9 0.0=67b,n9 0.0=67c,n9 0.0=67d,n9
0.0=67e,n9 0.0=67f,n9 0.0=67g,n9 0.0=67h,n9 0.0=67i,n9 0.0=67j,n9 0.0=q9,li 0.0=q9,lg 0.0=67k,n9 0.0=q9,n9
0.0=q4,n9 1.0=q9,n6 0.0=69i,n9 0.0=pd,li 0.0=pd,lg 0.0=pd,lc 1.0=pd,n9 4.0=4o,n6 0.0=67o,n9 0.0=qf,n9 0.0=q6,n9
1.0=qf,n6 0.0=69y,n9 0.0=ph,lc 1.0=pj,lc 1.0=pj,n9 0.0=69r,lc 0.0=69r,ld 0.0=69r,n6 0.0=qh,li 0.0=qh,lg
0.0=qy,lc 3.0=qh,n6 0.0=qy,n6 0.0=pl,li 0.0=pl,lg 0.0=pl,lc 2.0=6bi,lc 0.0=6bi,ld 0.0=6bi,n6 0.0=qt,li 0.0=qt,lg
0.0=qz,lc 1.0=qp,lv 0.0=qp,lw 0.0=qt,n6 0.0=qz,n6 0.0=px,li 0.0=px,lg 0.0=px,lc 1.0=pt,lw 0.0=4o,lc 4.0=67w,n9
0.0=qx,n9 0.0=r2,n9 1.0=qx,n6 0.0=6ba,n9 0.0=pr,lc 1.0=q1,lc 1.0=q1,n9 bh.0=6mo,mw 0.0=6mq,mw i.0=6ms,mw
u.0=6og,mw 0.0=6ok,mw 0.0=6oi,mw 1g.0=6pv,mw 4.0=6q0,mw 2.0=6q3,mw n.0=6qr,mw 1.0=6qt,mw q.0=6rg,mw 2.0=6rn,mw
2.0=6rp,mw 1.0=6rs,mw m.0=1p,mw 1.0=6sh,mw a.0=6rx,mw 0.0=1o,mw 0.0=1q,mw 0.0=6sk,mw 0.0=6sl,mw 2.0=6sy,mw
0.0=6sz,mw 2.0=6t2,mw 0.0=6t3,mw 6.0=6t6,mw 0.0=6t7,mw 2.0=6te,mw 0.0=6tf,mw 2.0=6ti,mw 0.0=6tj,mw y.0=6ua,mw
0.0=6ug,mw 0.0=6uh,mw 0.0=6uj,mw 1c.0=6t8,mw 0.0=6t9,mw 0.0=6tt,mw 0.0=6tu,mw 6.0=6uq,mw 0.0=6ur,mw 0.0=6us,mw
0.0=6ut,mw 2n2.0=9jf,9ll 1.0=9jh,9ll 1.0=9jj,9ll 1.0=9jl,9ll 1.0=9jn,9ll 1.0=9jp,9ll 1.0=9jr,9ll 1.0=9jt,9ll
1.0=9jv,9ll 1.0=9jx,9ll 1.0=9jz,9ll 1.0=9k1,9ll 2.0=9k4,9ll 1.0=9k6,9ll 1.0=9k8,9ll 6.0=9kf,9ll 0.0=9kf,9lm
1.0=9ki,9ll 0.0=9ki,9lm 1.0=9kl,9ll 0.0=9kl,9lm 1.0=9ko,9ll 0.0=9ko,9lm 1.0=9kr,9ll 0.0=9kr,9lm m.0=9ja,9ll
9.0=9lp,9ll d.0=9m3,9ll 1.0=9m5,9ll 1.0=9m7,9ll 1.0=9m9,9ll 1.0=9mb,9ll 1.0=9md,9ll 1.0=9mf,9ll 1.0=9mh,9ll
1.0=9mj,9ll 1.0=9ml,9ll 1.0=9mn,9ll 1.0=9mp,9ll 2.0=9ms,9ll 1.0=9mu,9ll 1.0=9mw,9ll 6.0=9n3,9ll 0.0=9n3,9lm
1.0=9n6,9ll 0.0=9n6,9lm 1.0=9n9,9ll 0.0=9n9,9lm 1.0=9nc,9ll 0.0=9nc,9lm 1.0=9nf,9ll 0.0=9nf,9lm m.0=9ly,9ll
2.0=9nz,9ll 0.0=9o0,9ll 0.0=9o1,9ll 0.0=9o2,9ll 3.0=9od,9ll 1616.0=1fpu,lj q.0=1fq2,lj 245.0=1huh,1hve
1.0=1huj,1hve e.0=1hut,1hve 3m.0=1hyp,1hyf 0.0=1hyq,1hyf ez.0=1idj,1ida 0.0=1idj,1idz 1i.0=1if6,1ih5
1.0=1if8,1igr 8.0=1iff,1igy 2.0=1ifk,1ih5 1f.0=1igy,1igy 1.0=1igy,1igo 0.0=1igy,1ih5 6q.0=1int,1inu
0.0=1int,1ink 1.0=1int,1inx 6z.0=1iuw,1iun 0.0=1iux,1iun os.0=1jjp,1jjk e7c.0=1xr2,1xr2 0.0=1xr2,1xrd
0.0=1xr2,1xr3 0.0=1xrd,1xr3 0.0=1xr2,1xr4 0.0=1xr5,1xr3 0.0=1xr6,1xr3 0.0=1xr5,1xr4 2f3.0=206f,206f
0.0=206b,206f 0.0=206h,206f
"

def marks : Table Unit := Table.ofText (fun _ => some ()) "
lc.33 7n.6 7b.18 1.0 1.1 1.1 1.0 20.a 1c.k g.0 2t.6 2.5 2.1 1.3 z.0 u.q 2j.a 1m.8 9.0 o.3 1.8 1.2 1.4 17.2 1n.8
16.n 1.w 1i.2 1.h 1.6 a.1 t.2 1k.0 1.6 2.1 2.2 9.0 a.1 q.0 2.2 1k.0 1.4 4.1 2.2 3.0 u.1 3.0 b.2 1k.0 1.7 1.2 1.2
k.1 m.5 1.2 1k.0 1.6 2.1 2.2 7.2 a.1 u.0 1n.4 3.2 1.3 9.0 14.4 1j.0 1.6 1.2 1.3 7.1 b.1 t.2 1k.0 1.6 1.2 1.3 7.1
b.1 f.0 c.3 1j.1 1.6 1.2 1.3 9.0 a.1 t.2 1y.0 4.5 1.0 1.7 i.1 1p.0 2.6 c.7 2q.0 2.8 b.6 21.1 r.0 1.0 1.0 4.1
1d.j 1.1 5.a 1.z 9.0 2s.j n.3 4.2 1.2 2.6 3.3 d.b 1.0 a.3 jj.2 qa.3 s.2 t.1 u.1 1s.v 9.0 19.2 1.0 39.1 y.0 3a.b
4.b 63.4 1l.9 1.s 2.0 1c.19 2.b k.4 1b.g 12.8 c.2 u.c 1k.d 1c.j 48.2 1.k 4.0 6.0 2.2 5i.1r k0.w 2da.2 3x.0 2o.v
fe.5 2x.1 n9w.3 1.9 w.1 28.1 7k.0 3.0 4.0 n.4 4.0 2b.1 1e.h q.h d.0 12.7 p.c 18.3 1b.d 10.0 1v.d c.0 8.1 19.2
1e.0 1.2 2.1 5.1 1.0 15.4 5.1 6k.7 1.1 fn4.0 kh.f g.f r1.0 6a.0 45.4 1ae.2 1.1 5.3 14.2 4.0 4l.1 fx.3 1t.4 8t.1
25.5 1y.a 1d.3 3e.2 1h.e 15.0 2.1 a.3 19.a 7.0 1p.2 10.d g.1 18.0 c.2 1c.d 8.3 1.1 2k.b 6.0 2.0 4d.b l.3 1j.1
1.6 2.1 2.2 9.0 a.1 2.6 3.4 1v.8 1.0 2.0 1.3 1.4 1.0 e.1 2a.h n.0 29.j 6j.6 2.8 r.1 2a.g 2y.c 2t.e 74.e 6t.5 1.1
2.3 1.0 1.1 3x.6 2.6 3.0 s.9 14.6 1.3 8.0 9.a 1a.f 5i.7 5j.7 1.7 2a.l 1.d 3e.5 3.0 1.1 1.6 1.0 1u.4 1.1 1.4 9n.3
9.1 1.0 1c.6 3.4 n.0 44l.0 6.e 8ug.h 1xc.4 1n.6 t4.0 1.1i 7.3 29.0 b.1 f57.1 3mp.19 2.m f2.4 3.5 8.7 2.6 u.3
44.2 1iz.1i 4.1d 8.0 e.0 m.4 1.e 11s.6 1.g 2.6 1.1 1.4 2s.0 4g.6 af.0 1p.3 e4.3 72.1 6r.0 2.0 7.1 5.0 d6.6 31.6
gzhx.6n
"

def combiningClass (c : Char) : Nat :=
  (combiningClasses.find? c.toNat).getD 0

def isMark (c : Char) : Bool :=
  marks.contains c.toNat

end PodProbe.Unicode
