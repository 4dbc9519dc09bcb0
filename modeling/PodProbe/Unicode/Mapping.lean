import PodProbe.Unicode.Table

/-!
This module contains what becomes of each character of a domain name before it is looked up, by the table of the
technical standard 46 of Unicode.
-/

namespace PodProbe.Unicode

inductive Mapping where
  | valid
  | ignored
  | shift (distance : Int)
  | pairs
  | text (cs : List Char)
deriving DecidableEq, Repr

def Mapping.ofText? : List Char → Option Mapping
  | ['V'] => some valid
  | ['I'] => some ignored
  | ['A'] => some pairs
  | '+' :: cs => (number36? cs).map fun n => shift n
  | '-' :: cs => (number36? cs).map fun n => shift (-n)
  | '=' :: cs => (numbers36? cs).map fun ns => text (ns.map Char.ofNat)
  | _ => none

/-- All characters that are in no run are disallowed. -/
def mappings : Table Mapping := Table.ofText Mapping.ofText? "
0.1sV 0.p+w 0.10V w.0-3k 0.6V 0.0=w,lk 0.0V 0.0-21 0.1V 0.0I 0.0V 0.0=w,lg 0.1V 0.1-3k 0.0=w,ld 0.0+lj 0.1V
0.0=w,mf 0.0-3s 0.0-23 0.0V 0.0=1d,6dg,1g 0.0=1d,6dg,1e 0.0=1f,6dg,1g 0.0V 0.m+w 0.0V 0.6+w 0.wV 0.1bA 0.0=2x,lj
0.0V 0.0=2x,2y 0.0=2x,2y 0.3A 0.0V 0.5A 0.0=30,53 0.0=30,53 0.7A 0.0=jg,32 0.19A 0.0-3d 0.5A 0.0-7g 0.0V 0.0+5u
0.3A 0.0+5q 0.0+1 0.0V 0.1+5p 0.0+1 0.1V 0.0+27 0.0+5m 0.0+5n 0.0+1 0.0V 0.0+5p 0.0+5r 0.0V 0.0+5v 0.0+5t 0.0+1
0.2V 0.0+5v 0.0+5x 0.0V 0.0+5y 0.5A 0.0+62 0.0+1 0.0V 0.0+62 0.1V 0.0+1 0.0V 0.0+62 0.0+1 0.0V 0.1+61 0.3A
0.0+63 0.0+1 0.2V 0.0+1 0.6V 0.0=2s,am 0.0=2s,am 0.0=2s,am 0.0=30,2y 0.0=30,2y 0.0=30,2y 0.0=32,2y 0.0=32,2y
0.0=32,2y 0.fA 0.0V 0.hA 0.0V 0.0=2s,3e 0.0=2s,3e 0.0=2s,3e 0.0+1 0.0V 0.0-2p 0.0-1k 0.13A 0.0-3m 0.0V 0.hA 0.5V
0.0+8bv 0.0+1 0.0V 0.0-4j 0.0+8bs 0.1V 0.0+1 0.0V 0.0-5f 0.0+1x 0.0+1z 0.9A 0.2nV 0.0-g8 0.0-23 0.0-g8 0.0-g1
0.0-1n 0.0-1m 0.0-1h 0.0-g0 0.0-fz 0.uV 0.0=w,li 0.0=w,lj 0.0=w,lm 0.0=w,mg 0.0=w,lf 0.0=w,ln 0.1V 0.0-3h 0.0-hh
0.0-hb 0.0-h7 0.0-27 0.2iV 0.1-1s 0.0V 0.0-1c 0.0=lk,ld 0.0+38 0.8V 0.0I 0.vV 0.3A 0.0-57 0.0V 0.0+1 0.0V
2.0=w,qh 0.2V 0.0-n7 0.0+38 4.0=w,ld 0.0=w,lk,ld 0.0+12 0.0-k0 0.2+11 1.0+1s 1.1+1r 0.0V 0.g+w 1.8+w 0.yV 0.0+8
0.0-u 0.0-p 0.0-d 0.0-6 0.0-9 0.0-f 0.0-m 0.0V 0.nA 0.0-1i 0.0-1c 0.0-1b 0.0V 0.0-1o 0.0-1s 0.0V 0.0+1 0.0V
0.0-1i 0.0+1 0.1V 0.2-3m 0.f+28 0.v+w 0.1bV 0.xA 0.7V 0.1hA 0.0+f 0.dA 0.0V 0.2nA 1.11+1c 2.19V 0.0=12d,136 0.2V
2.2V 1.1iV 8.qV 4.5V h.lV 1.2fV 0.0=17r,19w 0.0=18o,19w 0.0=1c7,19w 0.0=18q,19w 0.2rV 1.1bV 2.1mV 2.2sV e.1mV
2.1cV 2.eV 1.rV 2.0V 1.aV 5.vV 7.22V 1.38V 0.0=1sl,1to 0.0=1sm,1to 0.0=1sn,1to 0.0=1ss,1to 0.0=1sx,1to
0.0=1sy,1to 0.0=1t7,1to 0.0=1tb,1to 0.zV 1.7V 2.1V 2.lV 1.6V 1.0V 3.3V 2.8V 2.1V 2.3V 8.0V 4.0=1wh,1x8
0.0=1wi,1x8 1.0=1wv,1x8 0.3V 2.oV 2.2V 1.5V 4.1V 2.lV 1.6V 1.0V 0.0=20i,20s 1.0V 0.0=20o,20s 1.1V 2.0V 1.4V 4.1V
2.2V 3.0V 7.0=1zq,20s 0.0=1zr,20s 0.0=1zw,20s 0.0V 1.0=20b,20s 7.gV a.2V 1.8V 1.2V 1.lV 1.6V 1.1V 1.4V 2.9V 1.2V
1.2V 2.0V f.3V 2.bV 7.6V 1.2V 1.7V 2.1V 2.lV 1.6V 1.1V 1.4V 2.8V 2.1V 2.2V 7.2V 4.0=275,27w 0.0=276,27w 1.4V
2.hV a.1V 1.5V 3.2V 1.3V 3.1V 1.0V 1.1V 3.1V 3.2V 3.bV 4.4V 3.2V 1.3V 2.0V 6.0V e.kV 5.cV 1.2V 1.mV 1.fV 2.8V
1.2V 1.3V 7.1V 1.2V 1.1V 2.3V 2.9V 7.lV 1.2V 1.mV 1.9V 1.4V 2.8V 1.2V 1.3V 7.1V 5.2V 1.3V 2.9V 1.2V c.cV 1.2V
1.1eV 1.2V 1.5V 4.fV 2.pV 1.2V 1.hV 3.nV 1.8V 1.0V 2.6V 3.0V 4.5V 1.0V 1.7V 6.9V 2.2V c.1dV 0.0=2tp,2sy 0.6V
4.sV 11.1V 1.0V 1.4V 1.nV 1.0V 1.bV 0.0=2x9,2wi 0.9V 2.4V 1.0V 1.6V 1.9V 2.0=2wb,2vt 0.0=2wb,2w1 0.1V w.bV 0.0-1
0.1hV 0.0=30i,33r 0.3V 1.3V 0.0=30s,33r 0.3V 0.0=30x,33r 0.3V 0.0=312,33r 0.3V 0.0=317,33r 0.bV 0.0=30g,33p 0.2V
4.1V 0.0=31t,31u 0.0V 0.0=31t,31w 0.0=33m,328 0.0=33m,31t,328 0.0=33n,328 0.0=33n,31t,328 0.6V 0.0=31t,328 0.gV
0.0=32q,33r 0.3V 1.3V 0.0=330,33r 0.3V 0.0=335,33r 0.3V 0.0=33a,33r 0.3V 0.0=33f,33r 0.bV 0.0=32o,33p 0.2V 1.eV
1.cV 11.4fV 0.11+5ls 1.0+5ls 5.0+5ls 2.17V 0.0-w 0.2pV 0.1I 0.6fV 1.3V 2.6V 1.0V 1.3V 2.14V 1.3V 2.wV 1.3V 2.6V
1.0V 1.3V 2.eV 1.1kV 1.3V 2.1uV 2.vV 3.pV 6.2dV 2.5-8 2.hrV 1.rV 3.2gV 7.lV 9.nV 9.jV c.cV 1.2V 1.1V c.1fV 0.1I
0.13V 2.9V 6.9V 6.aV 0.4I 0.9V 6.2gV 7.16V 5.1xV a.uV 1.bV 4.bV 4.0V 3.15V 2.4V b.17V 4.pV 6.aV 3.1pV 2.1sV 1.sV
2.aV 6.9V 6.dV 2.19V 2.bV k.24V 1.4lV 8.1nV 3.eV 3.1eV 0.0-4su 0.0-4st 0.0-4sk 0.1-4si 0.0-4sj 0.0-4sc 0.0-4ro
0.0+r7n 0.0+1 0.0V 5.16-2bk 2.2-2bk 0.7V 8.16V 5.17V 0.0-5or 0.0-5l3 0.0-5os 0.0V 0.1-5os 0.0-5ed 0.7-5os 0.0V
0.0-5ot 0.0-5cq 0.0-5ou 0.0-5ot 0.1-5os 0.0-5or 0.0-5pe 0.1-5bo 0.0-1w 0.0-5ph 0.1-5pg 0.0-5bl 0.1-5bk 0.0-5pi
0.0V 0.0-5pg 0.0-5pf 0.0-5ja 0.0-5pf 0.0-5bz 0.1-1q 0.0-5pi 0.1-5pf 0.0-1o 0.0-5bf 0.0-5ph 0.0-1j 0.2-52j
0.1-522 0.0-5q1 0.0-5pt 0.1-5pr 0.1-52s 0.0-52f 0.1-52b 0.cV 0.0-4zf 0.xV 0.0-5e1 0.0-5rt 0.0-5e0 0.0-5ny
0.0-5dv 0.0-5ru 0.0-5du 0.0-5dt 0.0-5dq 0.2-5do 0.0-18 0.0-5cb 0.0-5do 0.0-11 0.0-5cc 0.0-5dn 0.0-5dp 0.3-5do
0.0-5dm 0.1-5dd 0.0-5je 0.1-5d9 0.0-4c 0.1-5da 0.0-5s1 0.2-5d8 0.0-553 0.1rV 0.45A 0.3V 0.0=2p,ji 0.0-1m 0.1V
0.0-5vj 0.0V 0.2nA 0.7V 0.7-8 0.5V 2.5-8 2.7V 0.7-8 0.7V 0.7-8 0.5V 2.5-8 2.7V 1.0-8 1.0-8 1.0-8 1.0-8 0.7V
0.7-8 0.0V 0.0-5hh 0.0V 0.0-5hi 0.0V 0.0-5hj 0.0V 0.0-5hk 0.0V 0.0-5gt 0.0V 0.0-5gu 0.0V 0.0-5gv 2.0=64g,qh
0.0=64h,qh 0.0=64i,qh 0.0=64j,qh 0.0=64k,qh 0.0=64l,qh 0.0=64m,qh 0.0=64n,qh 0.0=64g,qh 0.0=64h,qh 0.0=64i,qh
0.0=64j,qh 0.0=64k,qh 0.0=64l,qh 0.0=64m,qh 0.0=64n,qh 0.0=65c,qh 0.0=65d,qh 0.0=65e,qh 0.0=65f,qh 0.0=65g,qh
0.0=65h,qh 0.0=65i,qh 0.0=65j,qh 0.0=65c,qh 0.0=65d,qh 0.0=65e,qh 0.0=65f,qh 0.0=65g,qh 0.0=65h,qh 0.0=65i,qh
0.0=65j,qh 0.0=674,qh 0.0=675,qh 0.0=676,qh 0.0=677,qh 0.0=678,qh 0.0=679,qh 0.0=67a,qh 0.0=67b,qh 0.0=674,qh
0.0=675,qh 0.0=676,qh 0.0=677,qh 0.0=678,qh 0.0=679,qh 0.0=67a,qh 0.0=67b,qh 0.1V 0.0=67k,qh 0.0=q9,qh 0.0=q4,qh
1.0V 0.0=69i,qh 0.1-8 0.0-22 0.0-5jj 0.0=q9,qh 0.0=w,lv 0.0-5j9 0.0=w,lv 0.0=w,n6 0.0=w,lk,n6 0.0=67o,qh
0.0=qf,qh 0.0=q6,qh 1.0V 0.0=69y,qh 0.0-2e 0.0-5jw 0.0-2e 0.0-5jx 0.0=qf,qh 0.0=w,lv,lc 0.0=w,lv,ld 0.0=w,lv,n6
0.2V 0.0-5kz 2.1V 0.1-8 0.0-2s 0.0-5kc 1.0=w,lw,lc 0.0=w,lw,ld 0.0=w,lw,n6 0.2V 0.0-5kj 0.3V 0.1-8 0.0-34
0.0-5jy 0.0-7 0.0=w,lk,lc 0.0=w,lk,ld 0.0-68f 2.0=67w,qh 0.0=qx,qh 0.0=r2,qh 1.0V 0.0=6ba,qh 0.0-3k 0.0-5kd
0.0-3i 0.0-5kd 0.0=qx,qh 0.0=w,ld 0.0=w,lw 1.0-6ao 0.0-6ap 0.0-6aq 0.0-6ar 0.0-6as 0.0-6at 0.0-6au 0.0-6av
0.0-6aw 0.0-6ax 0.0-6ay 0.0I 0.1V 2.0V 0.0-1 0.4V 0.0=w,mr 0.bV 3.0V 7.0-6bz 0.2V 0.0=6cy,6cy 0.0=6cy,6cy,6cy
0.0V 0.0=6d1,6d1 0.0=6d1,6d1,6d1 0.3V 0.0=x,x 0.0V 0.0=w,lh 0.7V 0.0=1r,1r 0.0=1r,x 0.0=x,1r 0.cV
0.0=6cy,6cy,6cy,6cy 0.6V 0.0-6db 0.4I 5.5I 0.0-6dc 0.0-6bs 2.5-6dc 0.0-6dr 0.0+bb 0.0-6db 0.1-6dx 0.0-6c1
0.9-6ds 0.0-6e7 0.0+av 0.0-6dr 0.1-6ed 1.0-6cv 0.0-6cs 0.0-6cj 0.0-6cb 0.0-5yz 0.0-6ct 0.3-6cr 0.0-6cq 0.1-6co
3.7V 0.0=36,37 0.oV e.wV f.0=2p,1b,2r 0.0=2p,1b,37 0.0-6fz 0.0=4w,2r 0.0V 0.0=2r,1b,33 0.0=2r,1b,39 0.0-624 0.0V
0.0=4w,2u 0.1-6g3 0.0-6g4 0.0-6g5 0.0-6g6 0.0-6aw 0.0-6g7 0.0-6g8 0.0-6g6 0.0-6g7 0.0V 0.0-6g7 0.0=32,33 0.1V
0.2-6g9 0.0-6ga 0.0-6gb 0.1V 0.0=37,31 0.0=38,2t,30 0.0=38,31 0.0V 0.0-6ga 0.0V 0.0-5st 0.0V 0.0-6ge 0.0V
0.0-6gv 0.0-6di 0.1-6h6 0.0V 0.0-6h6 0.1-6h7 0.0+s 0.0-6h2 0.0-6h1 0.3-5et 0.0-6hc 0.0V 0.0=2u,2p,3c 0.0-5to
0.0-5u2 0.0-5u3 0.0-5tr 0.0+5t 0.3V 0.0-6ht 0.1-6hu 0.1-6hr 0.5V 0.0=1d,6dg,1j 0.0=1d,6dg,1l 0.0=1d,6dg,1d,1c
0.0=1d,6dg,1f 0.0=1e,6dg,1f 0.0=1d,6dg,1h 0.0=1e,6dg,1h 0.0=1f,6dg,1h 0.0=1g,6dg,1h 0.0=1d,6dg,1i 0.0=1h,6dg,1i
0.0=1d,6dg,1k 0.0=1f,6dg,1k 0.0=1h,6dg,1k 0.0=1j,6dg,1k 0.0=1d,6dg 0.0-6if 0.0=2x,2x 0.0=2x,2x,2x 0.0=2x,3a
0.0-6i6 0.0=3a,2x 0.0=3a,2x,2x 0.0=3a,2x,2x,2x 0.0=2x,3c 0.0-6i9 0.0=3c,2x 0.0=3c,2x,2x 0.0-6io 0.1-6iy 0.0-6iq
0.0-6iv 0.0=2x,2x 0.0=2x,2x,2x 0.0=2x,3a 0.0-6im 0.0=3a,2x 0.0=3a,2x,2x 0.0=3a,2x,2x,2x 0.0=2x,3c 0.0-6ip
0.0=3c,2x 0.0=3c,2x,2x 0.0-6j4 0.1-6je 0.0-6j6 0.2V 0.0+1 0.4V 0.0=1c,6dg,1f 0.1V 4.4bV 0.0=6qz,6qz
0.0=6qz,6qz,6qz 0.0V 0.0=6r2,6r2 0.0=6r2,6r2,6r2 0.6vV 0.1+2jj 0.72V m.aV l.8-75b 0.0=1d,1c 0.0=1d,1d 0.0=1d,1e
0.0=1d,1f 0.0=1d,1g 0.0=1d,1h 0.0=1d,1i 0.0=1d,1j 0.0=1d,1k 0.0=1d,1l 0.0=1e,1c 0.0=14,1d,15 0.0=14,1e,15
0.0=14,1f,15 0.0=14,1g,15 0.0=14,1h,15 0.0=14,1i,15 0.0=14,1j,15 0.0=14,1k,15 0.0=14,1l,15 0.0=14,1d,1c,15
0.0=14,1d,1d,15 0.0=14,1d,1e,15 0.0=14,1d,1f,15 0.0=14,1d,1g,15 0.0=14,1d,1h,15 0.0=14,1d,1i,15 0.0=14,1d,1j,15
0.0=14,1d,1k,15 0.0=14,1d,1l,15 0.0=14,1e,1c,15 k.0=14,2p,15 0.0=14,2q,15 0.0=14,2r,15 0.0=14,2s,15 0.0=14,2t,15
0.0=14,2u,15 0.0=14,2v,15 0.0=14,2w,15 0.0=14,2x,15 0.0=14,2y,15 0.0=14,2z,15 0.0=14,30,15 0.0=14,31,15
0.0=14,32,15 0.0=14,33,15 0.0=14,34,15 0.0=14,35,15 0.0=14,36,15 0.0=14,37,15 0.0=14,38,15 0.0=14,39,15
0.0=14,3a,15 0.0=14,3b,15 0.0=14,3c,15 0.0=14,3d,15 0.0=14,3e,15 0.p-76d 0.p-773 0.0-796 0.10gV
0.0=6qz,6qz,6qz,6qz 0.2uV 0.0=1m,1m,1p 0.0=1p,1p 0.0=1p,1p,1p 0.2sV 0.0=8gt,mw 0.46V 2.3tV 0.1b+1c 0.1bV 0.0+1
0.0V 0.0-8af 0.0-2xy 0.0-89z 0.1V 0.5A 0.0-8bg 0.0-8al 0.0-8bj 0.0-8bi 0.0V 0.0+1 0.1V 0.0+1 0.5V 0.0-8pe
0.0-8p3 0.1-8cf 0.2rA 0.6V 0.3A 0.2V 0.0+1 0.0V 5.18V 1.0V 5.0V 2.1jV 7.0-e 0.0V e.nV 9.6V 1.6V 1.6V 1.6V 1.6V
1.6V 1.6V 1.6V 1.3hV y.pV 1.3V 0.0+c32 0.2aV 0.0+m98 c.0+64g 0.0+65j 0.0+65w 0.0+664 0.0+66t 0.0+680 0.0+686
0.0+68p 0.0+69e 0.0+6ra 0.0+6sb 0.0+6sg 0.0+6t2 0.0+6tl 0.0+6u5 0.0+6vl 0.0+6w5 0.0+6wf 0.0+70p 0.0+73a 0.0+741
0.0+745 0.0+74y 0.0+756 0.0+75w 0.0+768 0.0+76w 0.0+78b 0.0+78s 0.0+79i 0.0+7uh 0.0+7wg 0.0+897 0.0+89t 0.0+8a0
0.0+8aa 0.0+8ar 0.0+8cu 0.0+8q2 0.0+8rd 0.0+8uo 0.0+8va 0.0+8vs 0.0+8wd 0.0+8xu 0.0+8xw 0.0+97x 0.0+986 0.0+98h
0.0+98t 0.0+9c0 0.0+9c7 0.0+9cb 0.0+9fj 0.0+9fs 0.0+9g4 0.0+9gb 0.0+9hz 0.0+9if 0.0+9iw 0.0+9l3 0.0+a17 0.0+a2g
0.0+a30 0.0+anj 0.0+ann 0.0+apx 0.0+aqc 0.0+aqo 0.0+ar8 0.0+asa 0.0+ase 0.0+azs 0.0+b0f 0.0+b1a 0.0+bth 0.0+bva
0.0+bvw 0.0+bxh 0.0+by4 0.0+byc 0.0+byi 0.0+bzx 0.0+c01 0.0+c0w 0.0+cuu 0.0+d78 0.0+d7j 0.0+d7n 0.0+d7q 0.0+d7x
0.0+d8e 0.0+d8f 0.0+dan 0.0+dgm 0.0+dgq 0.0+dq4 0.0+dqd 0.0+drq 0.0+drw 0.0+ds4 0.0+dsb 0.0+dut 0.0+duz 0.0+e1a
0.0+e1g 0.0+e2s 0.0+e38 0.0+e4i 0.0+eb2 0.0+eb8 0.0+ebo 0.0+ekq 0.0+eo7 0.0+eoc 0.0+etd 0.0+evr 0.0+ex0 0.0+f7h
0.0+fb5 0.0+fr2 0.0+frs 0.0+ftc 0.0+fuq 0.0+fwl 0.0+fwv 0.0+fx0 0.0+fxw 0.0+fzz 0.0+g08 0.0+g9t 0.0+g9z 0.0+ga7
0.0+gaf 0.0+gau 0.0+gb8 0.0+gbb 0.0+gdh 0.0+gdk 0.0+gdp 0.0+h4x 0.0+h5q 0.0+hiq 0.0+hj1 0.0+hjn 0.0+hrh 0.0+hrt
0.0+htr 0.0+hv0 0.0+iaq 0.0+ib4 0.0+ibi 0.0+icg 0.0+idg 0.0+iiy 0.0+ij9 0.0+il3 0.0+iry 0.0+iss 0.0+iyk 0.0+iz4
0.0+iz8 0.0+j5b 0.0+jae 0.0+jdu 0.0+jdz 0.0+je3 0.0+k40 0.0+k48 0.0+k8j 0.0+kcs 0.0+kcu 0.0+ke4 0.0+kh0 0.0+khc
0.0+khf 0.0+khl 0.0+kka 0.0+kl7 0.0+klc 0.0+klp 0.0+kqb 0.0+krp 0.0+krs 0.0+kwu 0.0+kww 0.0+kxe 0.0+l4d 0.0+l5o
0.0+l5u 0.0+l7r 0.0+l80 0.0+l82 0.0+l8b 0.0+l94 0.0+lk2 0.0+lv5 0.0+lve 0.0+lwf 0.0+lx0 0.0+lx7 0.0+lxg 0.0+lxj
0.0+lym 0.0+lyp 0.0+lz5 0.0+lz9 0.0+lzl 0.0+m0b 0.0+m0p 0.0+m0w 0.0+m2i 0.0+m2w 0.0+m2z 16.0-9gg 0.0V 0.0-9g4
0.1eV 0.0-10 0.0V 0.0+6x5 0.1+6x7 0.4V 1.2dV 2.1V 0.0=w,9ll 0.0=w,9lm 0.1V 0.0=9l4,9l6 0.2mV 0.0=9mb,9mw 5.16V
1.1-6cx 0.0-689 0.0-6cy 0.1-689 0.2-6d0 0.5-68a 0.0-6cm 0.2-6d7 0.0-6cj 0.9-6d8 0.k-6b2 0.0I 0.1-6dt 0.1-68w
0.0-68t 0.0-68s 0.0-68o 0.0-68l 0.0-68k 0.0-6du 0.0-68i 0.0-68h 0.1-6dw 0.0-6dv 0.1-6du 0.0-6dr 0.0-6dq 0.4-6dp
0.0-6dn 0.0-6dk 0.0-6db 0.0-6d5 0.0-6d1 0.1-68h 0.2-6ct 0.1-6bn 0.0-6bl 0.1-6bd 0.0-6bc 0.0-6b3 0.0-6b1 1.1V
0.0+5m6 0.0+5q1 0.0+5md 0.0+7d2 0.0+5mc 0.0+5na 0.0+5mb 0.0+dcp 0.0+5of 0.0+5mm 0.0+5lx 0.0+7t8 0.0+7f6 0.0+5qz
0.1xV a.fV 0.0=14,3cw,15 0.0=14,3cy,15 0.0=14,3cz,15 0.0=14,3d1,15 0.0=14,3d2,15 0.0=14,3d3,15 0.0=14,3d5,15
0.0=14,3d7,15 0.0=14,3d8,15 0.0=14,3da,15 0.0=14,3db,15 0.0=14,3dc,15 0.0=14,3dd,15 0.0=14,3de,15 0.0=14,xz4,15
0.0=14,yvs,15 0.0=14,zc4,15 0.0=14,108s,15 0.0=14,10p4,15 0.0=14,115g,15 0.0=14,1224,15 0.0=14,12ys,15
0.0=14,13f4,15 0.0=14,14bs,15 0.0=14,14s4,15 0.0=14,158g,15 0.0=14,15os,15 0.0=14,1654,15 0.0=14,13p8,15
0.0=14,1350,13ic,15 0.0=14,1350,16f8,15 1.0=14,feo,15 0.0=14,fik,15 0.0=14,fex,15 0.0=14,h5n,15 0.0=14,fis,15
0.0=14,g31,15 0.0=14,fer,15 0.0=14,g2z,15 0.0=14,fh9,15 0.0=14,gg1,15 0.0=14,kco,15 0.0=14,m7f,15 0.0=14,ldg,15
0.0=14,kdk,15 0.0=14,ssx,15 0.0=14,h7j,15 0.0=14,k4l,15 0.0=14,kkq,15 0.0=14,kcp,15 0.0=14,ny6,15 0.0=14,glp,15
0.0=14,mm1,15 0.0=14,rs1,15 0.0=14,nz1,15 0.0=14,gc4,15 0.0=14,fkz,15 0.0=14,gos,15 0.0=14,i1y,15 0.0=14,nhf,15
0.0=14,flt,15 0.0=14,rt3,15 0.0=14,ggk,15 0.0=14,nzh,15 0.0=14,fm9,15 0.0=14,pnu,15 0.0=14,po3,15 0.0+6x7
0.0+8qf 0.0+a4h 0.0+eh4 0.7V 0.0=34,38,2t 0.0=1e,1d 0.0=1e,1e 0.0=1e,1f 0.0=1e,1g 0.0=1e,1h 0.0=1e,1i 0.0=1e,1j
0.0=1e,1k 0.0=1e,1l 0.0=1f,1c 0.0=1f,1d 0.0=1f,1e 0.0=1f,1f 0.0=1f,1g 0.0=1f,1h 0.0-6lc 0.1-6lb 0.2-6la 0.0-6l9
0.1-6l8 0.4-6l7 0.0+o0i 0.0+ox5 0.0+pdg 0.0+qa3 0.0+qqe 0.0+r6p 0.0+s3c 0.0+szz 0.0+tga 0.0+ucx 0.0+ut8 0.0+v9j
0.0+vpu 0.0+w65 0.0=14c8,y5c 0.0=13p8,13dk 0.0+t9u 0.0V 0.0+5fk 0.0+5jf 0.0+5fr 0.0+76g 0.0+5jk 0.0+63s 0.0+5fh
0.0+63o 0.0+5hx 0.0+6go 0.0+ada 0.0+c80 0.0+be0 0.0+ae3 0.0+itf 0.0+780 0.0+a51 0.0+al5 0.0+ad3 0.0+dyj 0.0+6m1
0.0+cmc 0.0+hsb 0.0+dza 0.0+6cc 0.0+e2n 0.0+d5p 0.0+7o8 0.0+ij1 0.0+619 0.0+6he 0.0+bih 0.0+k11 0.0+5m8 0.0+647
0.0+b7k 0.0+5eu 0.0+5fs 0.0+5et 0.0+8jj 0.0+6kr 0.0+6fm 0.0+831 0.0+81n 0.0+dh3 0.0+5lg 0.0+hsp 0.0+6g5 0.0+7l8
0.0=1f,1i 0.0=1f,1j 0.0=1f,1k 0.0=1f,1l 0.0=1g,1c 0.0=1g,1d 0.0=1g,1e 0.0=1g,1f 0.0=1g,1g 0.0=1g,1h 0.0=1g,1i
0.0=1g,1j 0.0=1g,1k 0.0=1g,1l 0.0=1h,1c 0.0=1d,kco 0.0=1e,kco 0.0=1f,kco 0.0=1g,kco 0.0=1h,kco 0.0=1i,kco
0.0=1j,kco 0.0=1k,kco 0.0=1l,kco 0.0=1d,1c,kco 0.0=1d,1d,kco 0.0=1d,1e,kco 0.0=2w,2v 0.0=2t,36,2v 0.0=2t,3a
0.0=30,38,2s 0.0-fi 0.0-fh 0.0-fg 0.0-ff 0.1-fe 0.0-fd 0.0-fc 0.0-fb 0.0-fa 0.0-f9 0.0-f8 0.0-f7 0.0-f6 0.0-f5
0.0-f4 0.0-f3 0.0-f1 0.0-f0 0.0-ez 0.5-ey 0.0-ew 0.0-eu 0.0-es 0.0-eq 0.4-eo 0.0-en 0.0-em 0.5-el 0.3-ek
0.0=fl0,gp8 0.0=9lu,9n5,9oc,9mw 0.0=9lu,9nv,9n9,9lt 0.0=9lu,9o3,9ne,9lu 0.0=9lu,9oc,9nv 0.0=9lw,9mz,9o3,9m8
0.0=9lw,9o3,9mp 0.0=9ly,9m1,9o3 0.0=9m0,9mh,9m7,9oc,9mx 0.0=9m0,9oc,9m3,9oc 0.0=9m2,9o3,9mh 0.0=9m2,9oc,9nk
0.0=9m3,9lw,9nu 0.0=9m3,9nt,9mr,9mw 0.0=9m3,9nx,9nu,9oc 0.0=9m4,9nx,9o3 0.0=9m4,9o3,9ni 0.0=9m6,9m4
0.0=9m6,9mz,9oc 0.0=9m5,9np,9nu,9oc 0.0=9m6,9nv,9mo,9oc 0.0=9m5,9nx 0.0=9m5,9nx,9m8,9nt,9nk
0.0=9m5,9nx,9nl,9oc,9mw,9nv 0.0=9m5,9nx,9nz,9mr,9mw 0.0=9m8,9nt,9nk 0.0=9m8,9nt,9nk,9mw,9o3
0.0=9m7,9nv,9mk,9lw,9nx 0.0=9m7,9nx,9oc,9n1 0.0=9m9,9oc,9mh 0.0=9mb,9nv,9my 0.0=9mb,9oc,9nh 0.0=9md,9lw,9m7,9nv
0.0=9md,9o3,9mp,9oc,9nk 0.0=9mf,9nu,9o3,9m8 0.0=9mj,9o3,9mp 0.0=9mj,9o3,9mw 0.0=9mo,9oc,9mh 0.0=9mv,9mf
0.0=9mx,9nv 0.0=9mw,9o3 0.0=9my,9n2 0.0=9n2,9mr,9mw 0.0=9n3,9lw,9ms 0.0=9n5,9oc,9mj,9o3,9mw 0.0=9n5,9oc,9ms
0.0=9n4,9oc,9nw,9nv 0.0=9n8,9lu,9mh,9mw,9nv 0.0=9n8,9m7,9nv 0.0=9n8,9mb 0.0=9n7,9nv 0.0=9n9,9lt,9nt,9mr,9mx
0.0=9n9,9lv,9oc,9mw 0.0=9na,9mr,9mf,9lz,9nv 0.0=9n9,9nt,9o3 0.0=9nc,9m7,9mn,9oc,9nv 0.0=9ne,9ml 0.0=9ne,9mz,9n6
0.0=9nc,9nv,9ms 0.0=9ne,9o3,9mh 0.0=9ne,9oc,9mg 0.0=9nd,9oc,9mn 0.0=9nh,9lw,9o3,9mw 0.0=9ng,9nv,9mw 0.0=9nf,9o3
0.0=9nh,9o3,9mx 0.0=9nf,9oc,9nv 0.0=9nf,9oc,9o3 0.0=9ni,9lw,9m7,9nx 0.0=9ni,9lw,9nv 0.0=9ni,9mr,9n3
0.0=9ni,9nv,9m7 0.0=9ni,9o3,9mf,9nr,9o3 0.0=9nj,9m7,9nx,9o3 0.0=9nj,9nu 0.0=9nj,9nu,9n4,9oc,9nv 0.0=9nl,9m4
0.0=9nl,9m4,9mw,9o3 0.0=9nl,9oc,9mw,9nv 0.0=9no,9oc,9mx 0.0=9no,9oc,9nv 0.0=9nq,9lu,9o3 0.0=9nu,9mr,9mw,9nv
0.0=9nu,9nt 0.0=9nv,9n8,9oc 0.0=9nv,9oc,9na,9nv 0.0=9nw,9nk 0.0=9nw,9o3,9mw,9ma,9o3 0.0=9nz,9mr,9mw 0.0=1c,m9l
0.0=1d,m9l 0.0=1e,m9l 0.0=1f,m9l 0.0=1g,m9l 0.0=1h,m9l 0.0=1i,m9l 0.0=1j,m9l 0.0=1k,m9l 0.0=1l,m9l 0.0=1d,1c,m9l
0.0=1d,1d,m9l 0.0=1d,1e,m9l 0.0=1d,1f,m9l 0.0=1d,1g,m9l 0.0=1d,1h,m9l 0.0=1d,1i,m9l 0.0=1d,1j,m9l 0.0=1d,1k,m9l
0.0=1d,1l,m9l 0.0=1e,1c,m9l 0.0=1e,1d,m9l 0.0=1e,1e,m9l 0.0=1e,1f,m9l 0.0=1e,1g,m9l 0.0=2w,34,2p 0.0=2s,2p
0.0=2p,39 0.0=2q,2p,36 0.0=33,3a 0.0=34,2r 0.0=2s,31 0.0=2s,31,1e 0.0=2s,31,1f 0.0=2x,39 0.0=inn,jdc 0.0=k6l,gp8
0.0=hlz,l7n 0.0=k5q,lh7 0.0=kkq,irz,fmi,ny6 0.0=34,2p 0.0=32,2p 0.0=qk,2p 0.0=31,2p 0.0=2z,2p 0.0=2z,2q
0.0=31,2q 0.0=2v,2q 0.0=2r,2p,30 0.0=2z,2r,2p,30 0.0=34,2u 0.0=32,2u 0.0=qk,2u 0.0=qk,2v 0.0=31,2v 0.0=2z,2v
0.0=2w,3e 0.0=2z,2w,3e 0.0=31,2w,3e 0.0=2v,2w,3e 0.0=38,2w,3e 0.0=qk,30 0.0=31,30 0.0=2s,30 0.0=2z,30 0.0=2u,31
0.0=32,31 0.0=qk,31 0.0=31,31 0.0=2r,31 0.0=2z,31 0.0=31,31,1e 0.0=2r,31,1e 0.0=31,1e 0.0=2z,31,1e 0.0=31,31,1f
0.0=2r,31,1f 0.0=31,1f 0.0=2z,31,1f 0.0=31,6qd,37 0.0=31,6qd,37,1e 0.0=34,2p 0.0=2z,34,2p 0.0=31,34,2p
0.0=2v,34,2p 0.0=36,2p,2s 0.0=36,2p,2s,6qd,37 0.0=36,2p,2s,6qd,37,1e 0.0=34,37 0.0=32,37 0.0=qk,37 0.0=31,37
0.0=34,3a 0.0=32,3a 0.0=qk,3a 0.0=31,3a 0.0=2z,3a 0.0=31,3a 0.0=34,3b 0.0=32,3b 0.0=qk,3b 0.0=31,3b 0.0=2z,3b
0.0=31,3b 0.0=2z,qx 0.0=31,qx 1.0=2q,35 0.0=2r,2r 0.0=2r,2s 0.0=2r,6qd,2z,2v 1.0=2s,2q 0.0=2v,3d 0.0=2w,2p
0.0=2w,34 0.0=2x,32 0.0=2z,2z 0.0=2z,31 0.0=2z,38 0.0=30,31 0.0=30,32 0.0=30,33,2v 0.0=30,3c 0.0=31,2q
0.0=31,2x,30 0.0=31,33,30 0.0=34,2w 1.0=34,34,31 0.0=34,36 0.0=37,36 0.0=37,3a 0.0=3b,2q 0.0=3a,6qd,31
0.0=2p,6qd,31 0.0=1d,k4l 0.0=1e,k4l 0.0=1f,k4l 0.0=1g,k4l 0.0=1h,k4l 0.0=1i,k4l 0.0=1j,k4l 0.0=1k,k4l 0.0=1l,k4l
0.0=1d,1c,k4l 0.0=1d,1d,k4l 0.0=1d,1e,k4l 0.0=1d,1f,k4l 0.0=1d,1g,k4l 0.0=1d,1h,k4l 0.0=1d,1i,k4l 0.0=1d,1j,k4l
0.0=1d,1k,k4l 0.0=1d,1l,k4l 0.0=1e,1c,k4l 0.0=1e,1d,k4l 0.0=1e,1e,k4l 0.0=1e,1f,k4l 0.0=1e,1g,k4l 0.0=1e,1h,k4l
0.0=1e,1i,k4l 0.0=1e,1j,k4l 0.0=1e,1k,k4l 0.0=1e,1l,k4l 0.0=1f,1c,k4l 0.0=1f,1d,k4l 0.0=2v,2p,30 0.m8cV 3.1iV
9.9nV k.19A 0.hV 0.rA 0.0-w2a 0.0-w29 0.2hV 8.xV 0.dA 0.1V 0.1pA 0.0-1 0.7V 0.3A 0.0-r9g 0.9A 0.2V 0.0+1 0.0V
0.0-wmg 0.1V 0.3A 0.1V 0.jA 0.0-wn8 0.0-wnj 0.0-wnf 0.0-wn5 0.0-wn8 0.0V 0.0-wlu 0.0-wmi 0.0-wlx 0.0+ps 0.fA
0.0-1c 0.0-wn7 0.0-raw 0.3A 0.0-wo7 0.fA 0.0-wu9 k.0-x32 0.0-x3j 0.0-x3h 0.0-x37 0.0+1 0.1V 0.0-wy9 0.0-wx2
0.1eV 3.9V 6.1jV 8.1xV 8.bV 6.37V b.tV 3.25V 1.aV 4.wV 1.1iV 9.dV 2.9V 2.2uV o.rV a.5V 2.5V 2.5V 9.6V 1.6V 1.17V
0.0-tx 0.0-12 0.0-xdf 0.0-d 0.8V 0.0-xcs 0.1V 4.27-tzk 0.19V 2.9V 6.8mbV c.mV 4.1cV 6is.0-lh4 0.0-sul 0.0-kzc
0.0-ldn 0.0-rar 0.0-xqr 0.0-wm9 0.0-hnv 0.0-hnw 0.0-vjs 0.0-ke1 0.0-was 0.0-vk4 0.0-tuf 0.0-pt1 0.0-o0a 0.0-moh
0.0-mdz 0.0-m56 0.0-kn8 0.0-s9e 0.0-rne 0.0-qwt 0.0-qbd 0.0-n2z 0.0-khb 0.0-isp 0.0-xp5 0.0-wpz 0.0-s2h 0.0-qo3
0.0-mpe 0.0-hz6 0.0-us1 0.0-r3r 0.0-ms6 0.0-m2o 0.0-tp8 0.0-nke 0.0-mbs 0.0-uhq 0.0-suq 0.0-rls 0.0-qi7 0.0-km6
0.0-xif 0.0-x2v 0.0-wup 0.0-tbg 0.0-s4e 0.0-qoy 0.0-pqk 0.0-nxv 0.0-mr3 0.0-moq 0.0-l6w 0.0-jd2 0.0-iiy 0.0-i0w
0.0-pf3 0.0-p8d 0.0-of1 0.0-n79 0.0-k6z 0.0-hxd 0.0-lt7 0.0-voj 0.0-ugv 0.0-oo4 0.0-nuv 0.0-qn8 0.0-pdp 0.0-lfq
0.0-jf6 0.0-voy 0.0-uzt 0.0-sah 0.0-rjn 0.0-rb3 0.0-oio 0.0-obd 0.0-jk6 0.0-ww0 0.0-nuw 0.0-x2w 0.0-x3d 0.0-p4q
0.0-oex 0.0-n6v 0.0-jj8 0.0-lp6 0.0-tqk 0.0-sbe 0.0-lsv 0.0-xt1 0.0-v3s 0.0-ua6 0.0-qfu 0.0-q2a 0.0-wuk 0.0-pd5
0.0-xie 0.0-ud9 0.0-xui 0.0-rrw 0.0-t81 0.0-ojs 0.0-wq0 0.0-vta 0.0-prg 0.0-n51 0.0-lvp 0.0-rzq 0.0-kw1 0.0-ru2
0.0-tpx 0.0-nf3 0.0-tlh 0.0-q35 0.0-xqh 0.0-x73 0.0-x4g 0.0-smx 0.0-olw 0.0-nil 0.0-luz 0.0-khb 0.0-wwa 0.0-wn2
0.0-vm6 0.0-uja 0.0-t6m 0.0-r5y 0.0-pcr 0.0-jq1 0.0-isd 0.0-hyp 0.0-hx7 0.0-wz3 0.0-szp 0.0-s2d 0.0-kyz 0.0-umy
0.0-u0v 0.0-txs 0.0-tfb 0.0-rcf 0.0-qx6 0.0-qa3 0.0-p8r 0.0-of6 0.0-nxk 0.0-l0y 0.0-n1n 0.0-ktz 0.0-k7l 0.0-x39
0.0-wze 0.0-wkh 0.0-r13 0.0-mam 0.0-lx3 0.0-ul5 0.0-ucu 0.0-tnt 0.0-s1j 0.0-ors 0.0-qia 0.0-xqc 0.0-w4w 0.0-v5v
0.0-usx 0.0-uc0 0.0-qgr 0.0-qbp 0.0-o45 0.0-nze 0.0-kfx 0.0-ji4 0.0-jfv 0.0-ja4 0.0-xm2 0.0-pag 0.0-kjn 0.0-jk0
0.0-u6w 0.0-xtg 0.0-xcx 0.0-v66 0.0-v3y 0.0-t9h 0.0-se5 0.0-quq 0.0-pz3 0.0-n2e 0.0-ksn 0.0-htj 0.0-t31 0.0-jo8
0.0-x1a 0.0-swd 0.0-st2 0.0-rrd 0.0-rhr 0.0-qf7 0.0-q5w 0.0-pk3 0.0-on3 0.0-j8y 0.0-x9g 0.0-tyc 0.0-jmj 0.0-xih
0.0-uyk 0.0-rn0 0.0-l2l 0.0-uh9 0.0-u51 0.0-ssj 0.0-qj8 0.0-jme 0.0-x4k 0.0-wr3 0.0-v3u 0.0-t71 0.0-syb 0.0-soq
0.0-rum 0.0-qfy 0.0-q2r 0.0-o6l 0.0-mc8 0.0-mbr 0.0-kkd 0.0-jk8 0.0-wx8 0.0-rhu 0.0-wr4 0.0-qvy 0.0-qc7 0.0-mwm
0.0-jm6 0.0-ihn 0.0-i1g 0.0-swt 0.0-roq 0.0-npq 0.0-p4c 0.0-p20 0.0-orr 0.0-qpm 0.0-r4y 0.0-lus 0.0-xtp 0.0-ngo
0.0-x51 0.0-x6h 0.0-uor 0.0-tv3 0.0-oq5 0.0-vb3 0.0-rtz 0.0-t3m 0.0-l3g 0.0-mgs 0.0-jp8 0.0-m7z 0.0-uns 0.0-xcc
0.0-wgd 0.1V 0.0-vxy 0.0V 0.0-t5q 0.1V 0.0-x87 0.0-qng 0.0-pxp 0.0-pgc 0.0-pff 0.0-pf9 0.0-pe4 0.0-jie 0.0-orj
0.0-o69 0.0V 0.0-mxa 0.0V 0.0-lyi 0.1V 0.0-kx9 0.0-krt 0.2V 0.0-j7f 0.0-j73 0.0-j5w 0.0-i9l 0.0-ksw 0.0-jnc
0.0-xoi 0.0-xfu 0.0-xd1 0.0-x2i 0.0-x1s 0.0-wys 0.0-wih 0.0-wfl 0.0-wcw 0.0-vzt 0.0-vwy 0.0-v6f 0.0-v66 0.0-ucp
0.0-u6u 0.0-u5t 0.0-u32 0.0-tf6 0.0-tb4 0.0-t6a 0.0-ssf 0.0-rta 0.0-ros 0.0-rhh 0.0-r16 0.0-qvy 0.0-qi0 0.0-pmi
0.0-phq 0.0-phg 0.0-phi 0.0-phb 0.0-ph6 0.0-ph0 0.1-pfp 0.0-pas 0.0-p90 0.0-p06 0.0-okj 0.0-ojz 0.0-oig 0.0-oa0
0.0-o5y 0.0-nsf 0.0-nok 0.0-nol 0.0-nbc 0.0-mds 0.0-ma3 0.0-m01 0.0-lyi 0.0-ln5 0.0-llp 0.0-l2o 0.0-kz3 0.0-jnp
0.0-jfu 0.0-je7 0.0-ueu 0.0+1sw2 0.0-nrp 2.0-y16 0.0-xbw 0.0-xe2 0.0-xrn 0.0-xf3 0.0-xdh 0.0-x4f 0.0-x31 0.0-wkb
0.0-wmc 0.0-wkh 0.0-wih 0.0-w0y 0.0-vyi 0.0-vui 0.0-vu3 0.0-vmm 0.0-vh5 0.0-ur4 0.0-uqy 0.0-umz 0.0-ul4 0.0-ucu
0.0-u9l 0.0-ubk 0.0-u7v 0.0-u96 0.0-u55 0.0-u3c 0.0-ts9 0.0-tpu 0.0-tod 0.0-th6 0.0-t99 0.0-t4r 0.0-t4o 0.0-t32
0.0-s9o 0.0-s7w 0.0-rx2 0.0-rlp 0.0-rm6 0.0-rjs 0.0-rct 0.0-r3i 0.0-pva 0.0-qy1 0.0-quo 0.0-qra 0.0-qi8 0.0-qe4
0.0-qco 0.0-q6f 0.0-q6e 0.0-q1o 0.0-q18 0.0-q0k 0.0-py7 0.0-pyi 0.0-pnj 0.0-pa3 0.0-p2l 0.0-oxf 0.0-or8 0.0-on0
0.0-odv 0.0-o8d 0.0-nkx 0.0-ngl 0.0-mrg 0.0-met 0.0-mcx 0.0-mci 0.0-m4a 0.0-m2q 0.0-m40 0.0-m2j 0.0-m2n 0.0-m35
0.0-m12 0.0-lyu 0.0-lo9 0.0-l8q 0.0-l01 0.0-krv 0.0-klr 0.0-jt6 0.0-jqc 0.0-jn6 0.0-jji 0.0-jij 0.0-ji8 0.0-jgx
0.0-iwr 0.0-i0i 0.0+1njv 0.0+1njo 0.0+1ptw 0.0-11rp 0.0-10vv 0.0-10uz 0.0+1vuc 0.0+1xx6 0.0+24n0 0.0-i39 0.0-i17
12.0=2u,2u 0.0=2u,2x 0.0=2u,30 0.0=2u,2u,2x 0.0=2u,2u,30 0.0=37,38 0.0=37,38 c.0=12s,12u 0.0=12s,12d 0.0=12s,12j
0.0=132,12u 0.0=12s,12l 5.0=15l,14k 0.0V 0.0=16a,14n 0.0-1cfy 0.0-1cgh 0.1-1cgf 0.2-1cg9 0.0-1cfz 0.0-1cfy
0.0-1dku 0.0=161,14x 0.0=161,14y 0.0=161,14s,14x 0.0=161,14s,14y 0.0=15c,14n 0.0=15c,14o 0.0=15c,14s 0.0=15d,14s
0.0=15e,14s 0.0=15f,14s 0.0=15g,14s 0.0=15h,14s 0.0=15i,14s 1.0=15k,14s 0.0=15l,14s 0.0=15m,14s 0.0=15n,14s
0.0=15o,14s 1.0=15q,14s 1.0=15s,14s 0.0=15t,14s 1.0=15v,14s 0.0=15w,14s 1.0=15y,14s 0.0=15z,14s 0.0=160,14s
0.0=161,14s 0.0=162,14s 0.0=15h,14p 0.0=15d,14v 0.0=15n,14v 0.0=15w,14v 0.0=15c,15o 0.0-1cdb 0.0-1cdc 0.0-1cd3
0.0-1cd4 0.0-1cd5 0.0-1cd6 0.0-1cd4 0.0-1cd5 0.0-1cd6 0.0-1cd7 0.0-1cd6 0.0-1cd7 0.0-1cd8 0.0-1cd9 0.0-1cdg
0.0-1cdh 0.0-1cdi 0.0-1cdj 0.0-1cdf 0.0-1cdg 0.0-1cdh 0.0-1cdi 0.0-1cdp 0.0-1cdq 0.0-1cdr 0.0-1cds 0.0-1ccm
0.0-1ccn 0.0-1cco 0.0-1ccp 0.0-1cco 0.0-1ccp 0.0-1ccq 0.0-1ccr 0.0-1cdq 0.0-1cdr 0.0-1cds 0.0-1cdt 0.0-1cdv
0.0-1cdw 0.0-1cdx 0.0-1cdy 0.0-1cdw 0.0-1cdx 0.0-1cdy 0.1-1cdz 0.0-1ce0 0.0-1ce1 0.0-1ce2 0.0-1cdx 0.0-1cdy
0.0-1ce0 0.0-1ce1 0.0-1ce0 0.0-1ce1 0.0-1ce8 0.0-1ce9 0.0-1cdu 0.0-1cdv 0.0-1ce3 0.0-1ce4 0.0-1cdh 0.0-1cdi
0.0-1cdj 0.0-1cdk 0.0-1cdf 0.0-1cdg 0.0-1cdh 0.0-1cdi 0.0-1cdf 0.0-1cdg 0.0-1cdh 0.0-1cdi 0.0-1cdl 0.0-1cdm
0.0-1cdn 0.0-1cdo 0.0-1cdg 0.1-1cdh 0.0-1cdi 0.0-1cdj 0.0-1cdk 0.0-1cdg 0.1-1cdh 0.0-1cdi 0.0-1cdj 0.0-1cdk
0.0-1cdo 0.0-1cdp 0.0-1cdq 0.0-1cdr 0.0-1cd8 0.1-1cd9 0.0-1cda 0.wV 0.0-1cfa 0.0-1cfb 0.0-1cfc 0.0-1cfd 0.0-1ceo
0.0-1cep 0.0-1cer 0.0-1ces 0.0-1cer 0.0-1ces 0.0=1c7,19w 0.0-1cer 0.0-1ces 0.0-1cez 0.0-1cf0 0.0-1cex 0.0-1cey
0.0-1ces 0.0-1cet 0.0-1ceu 0.0-1cev 0.0-1cin 0.0-1cio 0.0=17q,17r 0.0=17q,17r 0.0=17q,1cl 0.0=17q,1cl
0.0=17q,18o 0.0=17q,18o 0.0=17q,1c7 0.0=17q,1c7 0.0=17q,1c6 0.0=17q,1c6 0.0=17q,1c8 0.0=17q,1c8 0.0=17q,1cg
0.0=17q,1cg 0.0=17q,1cg 0.0=17q,18p 0.0=17q,18p 0.0=17q,18p 0.0-1cfk 0.0-1cfl 0.0-1cfm 0.0-1cfn 0.0=17q,17w
0.0=17q,17x 0.0=17q,18l 0.0=17q,18p 0.0=17q,18q 0.0=17s,17w 0.0=17s,17x 0.0=17s,17y 0.0=17s,18l 0.0=17s,18p
0.0=17s,18q 0.0=17u,17w 0.0=17u,17x 0.0=17u,17y 0.0=17u,18l 0.0=17u,18p 0.0=17u,18q 0.0=17v,17w 0.0=17v,18l
0.0=17v,18p 0.0=17v,18q 0.0=17w,17x 0.0=17w,18l 0.0=17x,17w 0.0=17x,18l 0.0=17y,17w 0.0=17y,17x 0.0=17y,18l
0.0=183,17w 0.0=183,17x 0.0=183,17y 0.0=183,18l 0.0=185,17x 0.0=185,18l 0.0=186,17w 0.0=186,17x 0.0=186,17y
0.0=186,18l 0.0=187,17x 0.0=187,18l 0.0=188,18l 0.0=189,17w 0.0=189,18l 0.0=18a,17w 0.0=18a,18l 0.0=18h,17w
0.0=18h,17x 0.0=18h,17y 0.0=18h,18l 0.0=18h,18p 0.0=18h,18q 0.0=18i,17x 0.0=18i,18l 0.0=18i,18p 0.0=18i,18q
0.0=18j,17r 0.0=18j,17w 0.0=18j,17x 0.0=18j,17y 0.0=18j,18k 0.0=18j,18l 0.0=18j,18p 0.0=18j,18q 0.0=18k,17w
0.0=18k,17x 0.0=18k,17y 0.0=18k,18l 0.0=18k,18p 0.0=18k,18q 0.0=18l,17w 0.0=18l,17x 0.0=18l,17y 0.0=18l,18l
0.0=18l,18p 0.0=18l,18q 0.0=18m,17w 0.0=18m,17x 0.0=18m,17y 0.0=18m,18l 0.0=18m,18p 0.0=18m,18q 0.0=18n,17w
0.0=18n,18l 0.0=18n,18p 0.0=18n,18q 0.0=18q,17w 0.0=18q,17x 0.0=18q,17y 0.0=18q,18l 0.0=18q,18p 0.0=18q,18q
0.0=180,19s 0.0=181,19s 0.0=18p,19s 0.0=w,18s,18x 0.0=w,18t,18x 0.0=w,18u,18x 0.0=w,18v,18x 0.0=w,18w,18x
0.0=w,18x,19s 0.0=17q,181 0.0=17q,182 0.0=17q,18l 0.0=17q,18m 0.0=17q,18p 0.0=17q,18q 0.0=17s,181 0.0=17s,182
0.0=17s,18l 0.0=17s,18m 0.0=17s,18p 0.0=17s,18q 0.0=17u,181 0.0=17u,182 0.0=17u,18l 0.0=17u,18m 0.0=17u,18p
0.0=17u,18q 0.0=17v,181 0.0=17v,182 0.0=17v,18l 0.0=17v,18m 0.0=17v,18p 0.0=17v,18q 0.0=18h,18p 0.0=18h,18q
0.0=18i,18p 0.0=18i,18q 0.0=18j,17r 0.0=18j,18k 0.0=18j,18l 0.0=18j,18p 0.0=18j,18q 0.0=18k,18l 0.0=18k,18p
0.0=18k,18q 0.0=18l,17r 0.0=18l,18l 0.0=18m,181 0.0=18m,182 0.0=18m,18l 0.0=18m,18m 0.0=18m,18p 0.0=18m,18q
0.0=18p,19s 0.0=18q,181 0.0=18q,182 0.0=18q,18l 0.0=18q,18m 0.0=18q,18p 0.0=18q,18q 0.0=17q,17w 0.0=17q,17x
0.0=17q,17y 0.0=17q,18l 0.0=17q,18n 0.0=17s,17w 0.0=17s,17x 0.0=17s,17y 0.0=17s,18l 0.0=17s,18n 0.0=17u,17w
0.0=17u,17x 0.0=17u,17y 0.0=17u,18l 0.0=17u,18n 0.0=17v,18l 0.0=17w,17x 0.0=17w,18l 0.0=17x,17w 0.0=17x,18l
0.0=17y,17w 0.0=17y,18l 0.0=183,17w 0.0=183,17x 0.0=183,17y 0.0=183,18l 0.0=185,17x 0.0=185,17y 0.0=185,18l
0.0=186,17w 0.0=186,17x 0.0=186,17y 0.0=186,18l 0.0=187,17x 0.0=188,18l 0.0=189,17w 0.0=189,18l 0.0=18a,17w
0.0=18a,18l 0.0=18h,17w 0.0=18h,17x 0.0=18h,17y 0.0=18h,18l 0.0=18i,17x 0.0=18i,18l 0.0=18j,17w 0.0=18j,17x
0.0=18j,17y 0.0=18j,18k 0.0=18j,18l 0.0=18k,17w 0.0=18k,17x 0.0=18k,17y 0.0=18k,18l 0.0=18k,18n 0.0=18l,17w
0.0=18l,17x 0.0=18l,17y 0.0=18l,18l 0.0=18m,17w 0.0=18m,17x 0.0=18m,17y 0.0=18m,18l 0.0=18m,18n 0.0=18n,17w
0.0=18n,18l 0.0=18n,19s 0.0=18q,17w 0.0=18q,17x 0.0=18q,17y 0.0=18q,18l 0.0=18q,18n 0.0=17q,18l 0.0=17q,18n
0.0=17s,18l 0.0=17s,18n 0.0=17u,18l 0.0=17u,18n 0.0=17v,18l 0.0=17v,18n 0.0=183,18l 0.0=183,18n 0.0=184,18l
0.0=184,18n 0.0=18j,18k 0.0=18j,18l 0.0=18k,18l 0.0=18m,18l 0.0=18m,18n 0.0=18q,18l 0.0=18q,18n 0.0=18g,18u,18x
0.0=18g,18v,18x 0.0=18g,18w,18x 0.0=187,18p 0.0=187,18q 0.0=189,18p 0.0=189,18q 0.0=18a,18p 0.0=18a,18q
0.0=183,18p 0.0=183,18q 0.0=184,18p 0.0=184,18q 0.0=17x,18p 0.0=17x,18q 0.0=17w,18p 0.0=17w,18q 0.0=17y,18p
0.0=17y,18q 0.0=185,18p 0.0=185,18q 0.0=186,18p 0.0=186,18q 0.0=184,17w 0.0=184,17x 0.0=184,17y 0.0=184,18l
0.0=184,181 0.0=183,181 0.0=185,181 0.0=186,181 0.0=187,18p 0.0=187,18q 0.0=189,18p 0.0=189,18q 0.0=18a,18p
0.0=18a,18q 0.0=183,18p 0.0=183,18q 0.0=184,18p 0.0=184,18q 0.0=17x,18p 0.0=17x,18q 0.0=17w,18p 0.0=17w,18q
0.0=17y,18p 0.0=17y,18q 0.0=185,18p 0.0=185,18q 0.0=186,18p 0.0=186,18q 0.0=184,17w 0.0=184,17x 0.0=184,17y
0.0=184,18l 0.0=184,181 0.0=183,181 0.0=185,181 0.0=186,181 0.0=184,17w 0.0=184,17x 0.0=184,17y 0.0=184,18l
0.0=183,18n 0.0=184,18n 0.0=187,18l 0.0=183,17w 0.0=183,17x 0.0=183,17y 0.0=184,17w 0.0=184,17x 0.0=184,17y
0.0=187,18l 0.0=188,18l 0.0=17r,18r 0.0=17r,18r 0.hV 0.0=17u,17w,18l 0.0=17u,17x,17w 0.0=17u,17x,17w
0.0=17u,17x,18l 0.0=17u,17y,18l 0.0=17u,18l,17w 0.0=17u,18l,17x 0.0=17u,18l,17y 0.0=17w,18l,17x 0.0=17w,18l,17x
0.0=17x,18l,18q 0.0=17x,18l,18p 0.0=183,17x,17w 0.0=183,17w,17x 0.0=183,17w,18p 0.0=183,18l,17x 0.0=183,18l,17x
0.0=183,18l,17w 0.0=183,18l,18l 0.0=183,18l,18l 0.0=185,17x,17x 0.0=185,17x,17x 0.0=185,18l,18l 0.0=184,17x,18l
0.0=184,17x,18l 0.0=184,17w,18q 0.0=184,18l,17y 0.0=184,18l,17y 0.0=184,18l,18l 0.0=184,18l,18l 0.0=186,17x,18p
0.0=186,17y,18l 0.0=186,17y,18l 0.0=187,18l,17x 0.0=187,18l,17x 0.0=187,18l,18l 0.0=187,18l,18q 0.0=189,17w,18l
0.0=189,18l,18l 0.0=189,18l,18l 0.0=189,18l,18p 0.0=18a,18l,18l 0.0=18a,18l,18q 0.0=18a,18l,18p 0.0=18h,17y,18l
0.0=18h,17y,18l 0.0=18i,18l,17x 0.0=18i,18l,18l 0.0=18k,17x,18l 0.0=18k,17x,18q 0.0=18k,17x,18p 0.0=18k,17w,17w
0.0=18k,17w,17w 0.0=18k,17y,18l 0.0=18k,17y,18l 0.0=18k,18l,17x 0.0=18k,18l,17x 0.0=18l,17x,17w 0.0=18l,17x,18l
0.0=18l,17x,18q 0.0=18l,17w,17x 0.0=18l,17w,18l 0.0=18l,17y,17w 0.0=18l,17y,18l 0.1V 0.0=18l,17w,17y
0.0=18n,18l,17w 0.0=18n,18l,18l 0.0=18m,17x,18l 0.0=18m,17x,18p 0.0=18m,17w,18l 0.0=18m,17w,18l 0.0=18m,17w,18p
0.0=18m,18l,18q 0.0=18m,18l,18p 0.0=18q,18l,18l 0.0=18q,18l,18l 0.0=17s,17y,18q 0.0=17u,17w,18q 0.0=17u,17w,18p
0.0=17u,17y,18q 0.0=17u,17y,18p 0.0=17u,18l,18q 0.0=17u,18l,18p 0.0=17w,18l,18q 0.0=17w,17x,18p 0.0=17w,18l,18p
0.0=183,17y,18p 0.0=185,17x,18q 0.0=184,17x,18q 0.0=186,17x,18q 0.0=18k,17w,18q 0.0=18k,18l,18q 0.0=18q,17x,18q
0.0=18q,17w,18q 0.0=18q,18l,18q 0.0=18l,18l,18q 0.0=18i,18l,18q 0.0=18m,17x,18q 0.0=18i,18l,17x 0.0=18k,17x,18l
0.0=189,18l,18q 0.0=18j,18l,18q 0.0=18m,17w,17x 0.0=18l,17y,18q 0.0=18k,17w,18l 0.0=18j,18l,18l 0.0=18k,17w,18l
0.0=18m,17w,17x 0.0=17w,17x,18q 0.0=17x,17w,18q 0.0=18l,17w,18q 0.0=18h,18l,18q 0.0=17s,17x,18q 0.0=18j,18l,18l
0.0=189,17w,18l 0.0=185,18l,18l 0.0=183,17y,18q 0.0=18m,17w,18q 0.7V w.0=185,18k,1ci 0.0=18i,18k,1ci
0.0=17r,18k,18k,18n 0.0=17r,18j,17s,181 0.0=18l,17x,18l,17z 0.0=185,18k,189,18l 0.0=181,183,18o,18k
0.0=189,18k,18q,18n 0.0=18o,183,18k,18l 0.0=185,18k,18p
0.0=185,18k,18p,w,17r,18k,18k,18n,w,189,18k,18q,18n,w,18o,183,18k,18l 0.0=17w,18k,w,17w,18k,17r,18k,18n
0.0=181,1cc,17r,18k 0.2V 0.fI 0.0-1e5g 0.0-14pc 1.1-1e55 0.0-1e5w 0.0-1e53 0.1-14ox 7.fV 1.0-17vh 0.0-17vj
0.0-1e50 0.0-1e51 0.1-1e6l 0.0-1e4c 0.0-1e4b 0.1-14px 0.1-14q3 0.1-14qb 0.1-14qf 0.3-14qd 0.1V 0.0-1e5o 0.0-1e5n
0.0=w,lh 0.0=w,lh 0.0=w,lh 0.0=w,lh 0.0-1e5q 0.0-1e5r 0.0-1e5s 0.0-1e78 0.0-14r4 2.0-1e6x 0.0-1e6z 0.0-1e6v
0.0-1e7q 0.0-17wk 0.1-1e7l 0.0-1e5c 0.0-1e5b 0.1-14qx 0.0-1e7w 0.0-1e7u 0.1-1e7r 0.0-1e7q 0.0-1e7c 0.0-1e7b
0.0-1e7d 1.0-1e6k 0.1-1e85 0.0-1e7f 4.0=w,18r 0.0=18g,18r 0.0=w,18s 0.0V 0.0=w,18t 1.0=w,18u 0.0=18g,18u
0.0=w,18v 0.0=18g,18v 0.0=w,18w 0.0=18g,18w 0.0=w,18x 0.0=18g,18x 0.0=w,18y 0.0=18g,18y 0.1-1d27 0.1-1d28
0.1-1d29 0.1-1d2a 0.1-1d2b 0.0-1d2c 0.0-1d2d 0.1-1d2e 0.1-1d2f 0.0-1d2g 0.0-1d2h 0.1-1d2i 0.1-1d2j 0.0-1d2k
0.0-1d2l 0.1-1d2m 0.0-1d2n 0.0-1d2o 0.1-1d2p 0.0-1d2q 0.0-1d2r 0.1-1d2s 0.0-1d2t 0.0-1d2u 0.1-1d2v 0.0-1d2w
0.0-1d2x 0.1-1d2y 0.1-1d2z 0.1-1d30 0.1-1d31 0.1-1d32 0.0-1d33 0.0-1d34 0.1-1d35 0.0-1d36 0.0-1d37 0.1-1d38
0.0-1d39 0.0-1d3a 0.1-1d3b 0.0-1d3c 0.0-1d3d 0.1-1d3e 0.0-1d3f 0.0-1d3g 0.1-1d3h 0.0-1d3i 0.0-1d3j 0.1-1d3k
0.0-1d3l 0.0-1d3m 0.1-1d3n 0.0-1d3o 0.0-1d3p 0.0-1d3q 0.0-1d3k 0.0-1d3l 0.0-1d3m 0.1-1d3n 0.0-1d3o 0.0-1d3p
0.1-1d3q 0.0-1d3r 0.0-1d3s 0.1-1d3t 0.0-1d3u 0.0-1d3v 0.1-1d3w 0.0-1d3x 0.0-1d3y 0.1-1d3z 0.0-1d40 0.0-1d41
0.1-1d42 0.0-1d43 0.0-1d44 0.1-1d45 0.1-1d46 0.1-1d47 0.0-1d48 0.0-1d49 0.0-1d4a 0.0=18k,17m 0.0=18k,17m
0.0=18k,17n 0.0=18k,17n 0.0=18k,17p 0.0=18k,17p 0.0=18k,17r 0.0=18k,17r 2.0I 1.v-1ecg 0.p-1ebk 0.z-1ecg 0.1-168q
0.0-1eer 0.1-14ye 0.0-14yr 0.0-14ru 0.0-14s4 0.0-14ue 0.0-14ud 0.0-14uc 0.0-14ub 0.0-14ua 0.0-14sp 0.0-14so
0.0-14sn 0.0-14to 0.0-14s4 0.0-14un 0.0-14um 0.0-14ul 0.0-14uk 0.1-14uj 0.0-14ui 0.0-14uh 0.0-14ug 0.0-14uf
0.0-14ue 0.0-14ud 0.0-14uc 0.0-14ub 0.0-14ua 0.0-14u9 0.0-14u8 0.0-14u6 0.0-14u5 0.0-14u4 0.5-14u3 0.0-14u1
0.0-14tz 0.0-14tx 0.0-14tv 0.4-14tt 0.0-14ts 0.0-14tr 0.5-14tq 0.0-14tp 0.0-14tm 0.1-14w5 0.0I 0.1-1b4x 0.0-1b09
0.0-1b4y 0.1-1b09 0.2-1b50 0.5-1b0a 0.0-1b4m 0.2-1b57 0.0-1b4j 0.9-1b58 3.5-1b35 2.5-1b37 2.5-1b39 2.2-1b3b
3.1-1ef2 0.0-1eeu 0.0=w,lg 0.0-1ef2 0.0-1ef4 0.0-183h 1.0-178m 0.3-17x5 0.0-174d 0.0-1737 h.bV 1.pV 1.iV 1.1V
1.eV 2.dV y.3eV 5.2V 4.18V 3.2fV 1.cV 3.0V 1b.19V 3m.sV 3.1cV f.rV 4.zV 9.tV 5.16V 5.tV 1.10V 4.dV 16.13+14
0.39V 2.9V 6.z+14 4.zV 4.13V 8.1fV b.0V 0.a+13 1.e+13 1.6+13 1.1+13 1.aV 1.eV 1.6V 1.1V 3.1fV c.8mV 9.lV a.7V
o.0V 0.1-1fht 0.0-1fvh 0.0-1fjf 0.0-1fle 1.0-1fj8 0.0-i76 0.0-1fj8 0.0-1fja 0.1-1flh 0.0-1a7w 0.0-1fli 0.0-1fld
0.0-1fjb 0.0-1fl9 0.0-1flc 0.0-1flf 0.0-1fjt 0.0-1fu6 0.0-1fju 0.0-1flc 0.0-1fkk 0.1-1fjj 0.0-1flb 0.0+16js
0.0-iz3 0.0-1flc 0.0+16jq 0.0-1fki 0.0+16jp 0.0-1fvu 0.1-1fl9 0.0-1fzo 0.0-1fl8 0.0+16jl 0.1-1fl7 0.0-1fl6
0.0-1fk3 0.0-1fk6 0.0-i86 0.0-1fk7 0.0-1fl3 0.0-17b3 1.0-1fkz 0.1-1fki 0.0-1fkt 0.2-1fqu 0.0+16j5 0.0+16jo 1x.5V
2.0V 1.17V 1.1V 3.0V 2.mV 1.1zV 8.8V 1c.iV 1.1V 5.wV 3.qV 5.qV 12.1jV 4.jV 2.1dV 1.1V 5.7V 1.2V 1.sV 2.2V 4.9V
7.8V 7.1rV w.12V 4.bV 9.1hV 3.sV 2.qV 5.pV 7.3V c.6V 28.20V 1j.1e+1s d.1eV 7.19V 8.9V 6.fV 0.l+w 3.sV 8.1V 5s.uV
1.15V 1.2V 2.1V g.5V 8.8V x.19V 8.15V m.pV 12.rV k.mV 9.25V 4.zV 9.1pV 1.4V d.oV 7.9V 6.1gV 1.hV 8.12V 9.2nV
1.jV b.hV 1.1aV 1q.6V 1.0V 1.3V 1.eV 1.aV 6.1mV 5.9V 6.3V 1.7V 2.1V 2.lV 1.6V 1.1V 1.4V 1.9V 2.1V 2.2V 2.0V 6.0V
5.6V 2.6V 3.4V b.9V 1.0V 2.0V 1.11V 1.9V 1.0V 2.0V 1.3V 1.9V 1.1V 8.1V t.2jV 1.4V u.1zV 8.9V 4m.1hV 2.11V y.1wV
b.9V 6.cV j.1lV 6.9V 6.jV s.qV 2.eV 4.mV 55.1nV 2s.v+w 0.1eV c.7V 2.0V 2.7V 1.1V 1.tV 1.1V 2.bV 9.9V 1y.7V 2.19V
2.aV r.1zV 8.2aV d.20V 7.9V 2e.7V 2g.xV e.9V 6.8V 1.18V 1.dV a.sV 3.vV 2.lV 1.dV 21.6V 1.1V 1.17V 3.0V 1.1V 1.8V
8.9V 6.5V 1.1V 1.10V 1.1V 1.5V 7.9V 6.17V 4.9V 6u.oV 7.gV 1.14V 3.sV 2d.0V f.1dV d.pmV 2u.32V 1.4V b.5fV 218.2qV
d.trV g.lV a.32yV 5.g6V 5a1.1lV 1c6.fsV 7.uV 1.9V 4.28V 1.9V 6.tV 2.5V a.1xV a.9V 1.6V 1.kV 5.iV c0.1lV 5i.v+w
0.1mV 5.o+r 2.oV 18.22V 4.1kV 7.gV 1s.4V b.6V 9.5p1V 15.vV 2p.36V 6pp.3V 1.6V 1.1V 1.82V f.0V t.2V 2.0V e.3V
8.azV 1s4.2yV 5.cV 3.8V 7.9V 2.3V 0.3I 318.5xV 0.p-2iyd 0.9-2j0g 0.2V 3.c3V 6.mV f.gV f.19V 2.mV 9.37V 1o.6tV
a.12V 2.1gV 0.0=2jx3,2jxh 0.0=2jx4,2jxh 0.0=2jx4,2jxh,2jxq 0.0=2jx4,2jxh,2jxr 0.0=2jx4,2jxh,2jxs
0.0=2jx4,2jxh,2jxt 0.0=2jx4,2jxh,2jxu 0.dV 0.7I 0.1rV 0.0=2jzt,2jxh 0.0=2jzu,2jxh 0.0=2jzt,2jxh,2jxq
0.0=2jzu,2jxh,2jxq 0.0=2jzt,2jxh,2jxr 0.0=2jzu,2jxh,2jxr 0.15V l.1xV 3e.jV c.jV c.2eV 9.oV 3r.p-2kdb 0.p-2ke1
0.p-2ker 0.6-2kfh 1.h-2kfh 0.p-2kg7 0.p-2kgx 0.0-2khn 1.1-2khn 2.0-2khn 2.1-2khn 2.3-2khn 1.7-2khn 0.3-2kid
1.0-2kid 1.6-2kid 1.a-2kid 0.p-2kj3 0.p-2kjt 0.1-2kkj 1.3-2kkj 2.7-2kkj 1.6-2kkj 1.p-2kl9 0.1-2klz 1.3-2klz
1.4-2klz 1.0-2klz 3.6-2klz 1.p-2kmp 0.p-2knf 0.p-2ko5 0.p-2kov 0.p-2kpl 0.p-2kqb 0.p-2kr1 0.p-2krr 0.p-2ksh
0.p-2kt7 0.p-2ktx 0.p-2kun 0.p-2kvd 0.0-2kqb 0.0-2kj2 2.g-2k8n 0.0-2k8x 0.6-2k8n 0.0-2e9m 0.g-2k9d 0.0-2k9c
0.6-2k9d 0.0-2eah 0.0-2k9z 0.0-2k9x 0.0-2k9w 0.0-2k9l 0.0-2k9r 0.0-2k9t 0.g-2ka9 0.0-2kaj 0.6-2ka9 0.0-2eb8
0.g-2kaz 0.0-2kay 0.6-2kaz 0.0-2ec3 0.0-2kbl 0.0-2kbj 0.0-2kbi 0.0-2kb7 0.0-2kbd 0.0-2kbf 0.g-2kbv 0.0-2kc5
0.6-2kbv 0.0-2ecu 0.g-2kcl 0.0-2kck 0.6-2kcl 0.0-2edp 0.0-2kd7 0.0-2kd5 0.0-2kd4 0.0-2kct 0.0-2kcz 0.0-2kd1
0.g-2kdh 0.0-2kdr 0.6-2kdh 0.0-2eeg 0.g-2ke7 0.0-2ke6 0.6-2ke7 0.0-2efb 0.0-2ket 0.0-2ker 0.0-2keq 0.0-2kef
0.0-2kel 0.0-2ken 0.g-2kf3 0.0-2kfd 0.6-2kf3 0.0-2eg2 0.g-2kft 0.0-2kfs 0.6-2kft 0.0-2egx 0.0-2kgf 0.0-2kgd
0.0-2kgc 0.0-2kg1 0.0-2kg7 0.0-2kg9 0.0-2kfh 0.0-2kfi 2.9-2l5q 0.9-2l60 0.9-2l6a 0.9-2l6k 0.9-2l6u 0.i3V f.4V
1.eV uo.uV 6.5V 5x.6V 1.gV 2.6V 1.1V 1.4V 5.8-2m0w 0.2-2m0v 0.a-2m0u 0.0-2m0s 0.1-2m0r 0.0-1pz5 0.0-2lwy
0.0-2m0m 0.0-2m0l 0.0-2lwl 0.0-2ly8 0.0-2lxd 0.8-2m1t 0.1-2m1s 0.1-2m1q 0.0-2m1p 0.5-2m1o 0.1-2m1n 0.0-2lzq
0.0-2m1e 0.0-2m1g 0.0-2m17 0.0-2lz4 0.0-1q1n 0.0-2lz0 x.0V 34.18V 3.dV 2.9V 4.1V 8w.uV h.1lV 5.0V cw.15V 5y.16V
4.0V 5c.uV 1.lV 8.1V 68.6V 1.3V 1.1V 1.eV 1.5gV 2.fV 15.x+y 0.15V 4.9V 4.1V lt.1vV 24.1oV 5e.1-2od5 0.0-2od2
0.0-2od0 1.0-2ocd 0.0-2od0 0.0-2od6 0.0-2ocx 0.0-2ocf 0.3-2ocn 0.0-2od7 0.0-2od2 0.0-2ocv 0.0-2od8 0.0-2ocw
0.0-2ode 0.0-2odc 0.1-2odn 0.0-2odl 0.0-2odk 0.0-2odf 0.0-2ode 0.0-2odd 0.0-2oby 0.0-2o9v 0.0-2oal 0.0-2oc0
1.0-2oe1 0.0-2ody 1.0-2od9 2.0-2oe2 1.0-2odb 0.3-2odj 0.0-2oe3 0.0-2ody 0.0-2odr 0.0-2oe4 0.0-2ods 1.0-2oe8
0.1-2oej 0.0-2oeh 1.0-2oeb 1.0-2oe9 6.0-2oeu 4.0-2oey 1.0-2oe7 1.0-2oef 1.0-2oef 0.0-2oez 0.0-2oeu 1.0-2of0
0.0-2oeo 1.0-2of4 2.0-2ofd 1.0-2of7 1.0-2of5 1.0-2obn 1.0-2ods 1.0-2oft 0.0-2ofq 1.0-2of1 2.0-2ofu 0.0-2ofl
0.0-2of3 0.0-2ofb 1.1-2ofb 0.0-2ofv 0.0-2ofq 0.0-2ofj 0.0-2ofw 0.0-2ofk 1.0-2og0 0.1-2ogb 0.0-2og9 1.0-2og3
0.0-2og2 0.0-2og1 0.0-2oem 1.0-2od9 1.1-2ogp 0.0-2ogm 0.0-2ogk 0.1-2ofx 0.0-2ogk 0.0-2ogq 0.0-2ogh 0.0-2ofz
1.2-2og7 0.0-2ogr 0.0-2ogm 0.0-2ogf 0.0-2ogs 0.0-2ogg 0.0-2ogy 0.0-2ogw 0.1-2oh7 0.0-2oh5 0.0-2oh4 0.0-2ogz
0.0-2ogy 0.0-2ogx 5.0-2ohl 0.0-2ohi 0.0-2ohg 1.0-2ogt 0.0-2ohg 0.0-2ohm 0.0-2ohd 0.0-2ogv 1.2-2oh3 0.0-2ohn
0.0-2ohi 0.0-2ohb 0.0-2oho 0.0-2ohc 0.0-2ohu 0.0-2ohs 0.1-2oi3 0.0-2oi1 0.0-2oi0 0.0-2ohv 0.0-2ohu 0.0-2oht
1g.1V 7i.17V 4.2rV c.eV 2.eV 1.eV 1.10V b.0=1c,18 0.0=1d,18 0.0=1e,18 0.0=1f,18 0.0=1g,18 0.0=1h,18 0.0=1i,18
0.0=1j,18 0.0=1k,18 0.0=1l,18 0.4V 0.0=14,2p,15 0.0=14,2q,15 0.0=14,2r,15 0.0=14,2s,15 0.0=14,2t,15 0.0=14,2u,15
0.0=14,2v,15 0.0=14,2w,15 0.0=14,2x,15 0.0=14,2y,15 0.0=14,2z,15 0.0=14,30,15 0.0=14,31,15 0.0=14,32,15
0.0=14,33,15 0.0=14,34,15 0.0=14,35,15 0.0=14,36,15 0.0=14,37,15 0.0=14,38,15 0.0=14,39,15 0.0=14,3a,15
0.0=14,3b,15 0.0=14,3c,15 0.0=14,3d,15 0.0=14,3e,15 0.0=9hw,37,9hx 0.0-2q4o 0.0-2q4a 0.0=2r,2s 0.0=3b,3e 0.0V
0.p-2q4v 0.0=2w,3a 0.0=31,3a 0.0=37,2s 0.0=37,37 0.0=34,34,3a 0.0=3b,2r 0.pV 0.0=31,2r 0.0=31,2s 0.0=31,36 0.yV
0.0=2s,2y 0.sV 1k.pV 0.0=9kr,9jf 0.0=9mb,9mb 0.0-2gr1 d.0-26yt 0.0-28ca 0.0-29ty 0.0-2gr0 0.0-2avc 0.0-28sb
0.0-1z5f 0.0-28ry 0.0-2aus 0.0-267t 0.0-241l 0.0-26bm 0.0-2a4v 0.0-27ip 0.0-2aa9 0.0-26b3 0.0-2a6b 0.0-21nj
0.0-239f 0.0-1ym2 0.0-28tw 0.0-29rg 0.0-24gi 0.0-26xe 0.0-26s3 0.0-2azt 0.0-2azl 0.0-1xwh 0.0-27uu 0.0-2ayo
0.0-29tn 0.0-26ug 0.0-1ygw 0.0-26zi 0.0-22ep 0.0-227t 0.0-29t8 0.0-24l1 0.0-2625 0.0-2627 0.0-239h 0.0-2a4n
0.0-29hg 0.0-1xpq 4.0=9hw,kdo,9hx 0.0=9hw,fex,9hx 0.0=9hw,fik,9hx 0.0=9hw,i2x,9hx 0.0=9hw,m9l,9hx
0.0=9hw,jf7,9hx 0.0=9hw,nh3,9hx 0.0=9hw,gd9,9hx 0.0=9hw,k0n,9hx 7.0-27jt 0.0-29uq e.5V 4a.rcV 3.gV 3.cV 3.61V
6.bV 4.0V f.bV 4.1jV 8.9V 6.13V 8.tV 2.bV 4.1V e.8V 13.9jV 8.dV 2.cV 3.aV 3.1kV 1.0V 4.fV 2.bV 4.9V 7.42V 1.2jV
0.9-2sao 0.0V sl.wynV w.3dpV 2.4gdV 2.5rkV f.h9V 1wi.0-3qo3 0.0-3qo9 0.0-3qo1 0.0-1crl 0.0-3qg4 0.0-3qdz
0.0-3qdn 0.0-3qbp 0.0-3q8e 0.0-3q7k 0.0-3q5f 0.0-3q64 0.0-3vqm 0.0-1brn 0.0-3q2p 0.0-3q2j 0.0-3q24 0.0-3q1m
0.0-1bzq 0.0-3vq2 0.0-3q25 0.0-3q14 0.0-1byj 0.0-3q0w 0.0-3q0k 0.0-3qkt 0.0-3q0e 0.0-3q06 0.0-k71 0.0-3pyg
0.0-3py3 0.0-3vpc 0.0-3pwl 0.0-3pwb 0.0-3pv4 0.0-3pv0 0.0-3vnz 0.0-3psu 0.0-3pst 0.0-3ps3 0.0-3pri 0.1-3pr8
0.0-3pqs 0.0-3ppf 0.0-3pp8 0.0-3pp0 0.0-3poc 0.0-3po3 0.0-3po2 0.0-3po3 0.0-3po4 0.0-1b0o 0.0-3jyd 0.0-3pm4
0.0-3plk 0.0-1as5 0.0-3pla 0.0-3pl5 0.0-3pkl 0.0-3pge 0.0-3pj9 0.0-3piu 0.0-3phz 0.0-3pge 0.0-3pe3 0.0-3pde
0.0-3pbk 0.0-3pb5 0.0-3pa9 0.0-3paa 0.0-3p9q 0.0-3p99 0.0-3p92 0.0-3p8o 0.0-3oz9 0.0-3p6u 0.0-3oza 0.0-3p4t
0.0-3p3v 0.0-3pzd 0.0-3omb 0.0-3ouc 0.0-3otb 0.0-3osn 0.0-3owa 0.0-3oro 0.0-3orq 0.0-3ooc 0.0-18xh 0.0-3omg
0.0-3omc 0.0-3oly 0.0-3olf 0.0-3ol8 0.0-3ojh 0.0-18l4 0.0-18jb 0.0-3ofq 0.0-3oeg 0.0-3oe5 0.0-3ogd 0.0-3ocg
0.0-3vcp 0.0-3vcc 0.0-3o81 0.0-3o6k 0.0-3o6l 0.0-17z8 0.0-3o2y 0.0-3o2e 0.0-3o20 0.0-3o1p 0.0-17q1 0.0-3o1f
0.0-3o19 0.0-3ndt 0.0-3o0j 0.0-3v91 0.0-3nyv 0.0-3nyi 0.0-3nw9 0.0-3nxp 0.0-176f 0.0-3nsp 0.0-176f 0.0-3nrk
0.0-3nro 0.0-3nr8 0.1-3nog 0.0-3v4k 0.0-3nnr 0.0-3nml 0.0-3nm1 0.0-3nku 0.0-3v3a 0.0-16h2 0.0-3v2m 0.0-3niz
0.0-3nix 0.0-3niv 0.0-3nic 0.0-gsd 0.0-3ngy 0.0-165c 0.0-165d 0.0-3gk2 0.0-3ng2 0.0-3ng3 0.0-3v0v 0.0-1333
0.0-try 0.0-3nef 0.0-3ne7 0.0-3v08 0.0-3ncy 0.0-3nbk 0.0-3nbb 0.0-3nae 0.0-3n6n 0.0-3uxz 0.0-3uyu 0.0-3n67
0.0-15g0 0.0-3n4u 0.0-3n1a 0.0-3n17 0.0-3n16 0.0-3n19 0.0-3n00 0.0-3mzh 0.0-3myi 0.0-3myx 0.0-3myn 0.0-3mxd
0.0-3mwu 0.0-3mwr 0.0-3mw2 0.0-3mvs 0.0-3mtz 0.0-3mro 0.0-3mqq 0.0-3mnb 0.0-14mk 0.0-3mnw 0.0-3mpq 0.0-3mmr
0.0-3mm1 0.0-3mjd 0.0-14gd 0.0-3mhp 0.0-3mkb 0.0-3ml4 0.0-3us4 0.0-3mfu 0.0-3mfa 0.0-3meg 0.0-3mfj 0.0-3uqj
0.0-3m9l 0.0-3m8t 0.0-13nk 0.0-3m5k 0.0-3lxw 0.0-3m2s 0.0-3ulx 0.0-3m0u 0.0-3umg 0.0-3unh 0.0-3q68 0.0-3q66
0.0-3lxw 0.0-3m0p 0.0-3gvd 0.0-3svy 0.0-3lxd 0.0-3lxa 0.0-3lx5 0.0-3lvh 0.0-3lvt 0.0-12xm 0.0-3ul1 0.0-3lr9
0.0-3luj 0.0-3lov 0.0-3lnh 0.0-12t2 0.0-3lna 0.0-3lqe 0.0-3ljm 0.0-3uiy 0.0-3lie 0.0-3lfq 0.0-3lds 0.0-3l8j
0.0-12dl 0.0-3l76 0.0-3ufq 0.0-3l5a 0.0-11zd 0.0-3l3x 0.0-3uec 0.0-3l35 0.0-3l1x 0.1-3l17 0.0-11m2 0.0-17fx
0.0-11j3 0.0-3kx8 0.0-116n 0.0-3ku5 0.0-3kts 0.0-3kwn 0.0-3krt 0.0-3kqq 0.0-3kp6 0.0-3kqp 0.0-3kpm 0.0-3kp8
0.0-3kow 0.0-1148 0.0-3kr7 0.0-3kk9 0.0-3kij 0.0-3u8n 0.0-3kg0 0.0-3kg5 0.0-10sc 0.0-3klx 0.0-3kbl 0.0-10oi
0.0-10n7 0.0-3k98 0.0-3k62 0.0-3k6u 0.0-3k6y 0.0-3u68 0.0-3k5p 0.0-3k4b 0.0-3k4i 0.0-3k31 0.0-1c6u 0.0-3jyv
0.0-103e 0.0-3jwi 0.0-zuc 0.0-3jso 0.0-3jsc 0.0-3jrm 0.0-zdn 0.0-3jqc 0.0-3jps 0.0-z5d 0.0-yz7 0.0-3jji 0.0-3jj2
0.0-3tz2 0.0-3jie 0.0-3tys 0.0-3tyt 0.0-3jdz 0.0-3jdf 0.0-3jcv 0.0-3jcc 0.0-3jag 0.0-3tw8 0.0-3j80 0.0-y67
0.0-3j7c 0.0-y3p 0.0-3j60 0.0-16l6 0.0-3j1m 0.0-xi2 0.0-xhg 0.0-xdl 0.0-3tqa 0.0-3tpz 0.0-3ivg 0.0-x8u 0.0-x8w
0.0-x7u 0.0-x75 0.1-3iuf 0.0-3iug 0.0-3ita 0.0-3tow 0.0-3irj 0.0-3tol 0.0-3tme 0.0-wmo 0.0-3im8 0.0-3ikj
0.0-3iis 0.0-3tke 0.0-w8c 0.0-3if1 0.0-w56 0.0-w40 0.0-3idj 0.0-3ib0 0.0-3tih 0.0-3i8p 0.0-3i8g 0.0-3i8c 0.0-vkw
0.0-vcm 0.0-vcn 0.0-3i41 0.0-3tcu 0.0-v5i 0.0-3hy4 0.0-3hy2 0.0-3tbx 0.0-uzp 0.0-3hqs 0.0-3t8n 0.0-3hq8 0.0-3hqe
0.0-3hpm 0.0-ued 0.0-3hmx 0.0-3t64 0.0-3hk7 0.0-3hil 0.0-3hgr 0.0-3t4t 0.0-tvu 0.0-tv0 0.0-3t3v 0.0-tr0 0.0-3h8c
0.0-to9 0.0-3h7n 0.0-3h4v 0.0-3h4l 0.0-tcx 0.0-tax 0.0-3h25 0.0-t7a 0.0-3h1r 0.0-134x 0.0-3t0s 0.0-3h00 0.0-3gxs
0.0-3szd 0.0-3gw7 0.0-3oi9 0.0-stc 0.0-ssz 0.0-133q 0.0-133i 0.0-3gqy 0.0-3gqw 0.0-3e27 0.0-3swz 0.0-3gn2
0.0-3gn9 0.0-3gms 0.0-3q3j 0.0-3gma 0.0-3gm9 0.0-3gm0 0.0-3gkw 0.0-s4b 0.0-3gkz 0.0-3gjg 0.0-3ghj 0.0-3gfi
0.0-3gjd 0.0-3gf4 0.0-3gdz 0.0-3gaw 0.0-3gi5 0.0-3gev 0.0-3geu 0.0-3gef 0.0-rxq 0.0-rp6 0.0-rtd 0.0-3ssc
0.0-3g6v 0.0-3g6u 0.0-3g5w 0.0-qg1 0.0-3g3s 0.0-rcx 0.0-3sr5 0.0-3sr2 0.0-r9b 0.0-r1b 0.0-3sqv 0.0-3fxf 0.0-3fx4
0.0-3fwu 0.0-3fwt 0.0-3fv2 0.0-3fw0 0.0-3fsb 0.0-3ftk 0.0-3fpe 0.0-3fro 0.0-3fpu 0.0-3fp4 0.0-3so8 0.0-3fmn
0.0-3fls 0.0-3snd 0.0-3fj7 0.0-3fj5 0.0-py6 0.0-3ffz 0.0-3fft 0.0-3slv 0.0-3ff3 0.0-3w27 0.0-pi5 0.0-pd2
0.0-3si7 0.0-3shz 0.0-3f3j 0.0-3f1f 0.0-3ex3 0.0-3erh 0.0-oq3 0.0-3ep5 0.0-3eok 0.0-3em3 0.0-3ejk 0.0-o89
0.0-1brp 0.0-3ehb 0.0-3ehr 0.0-3egc 0.0-1blr 0.0-3ea2 0.0-3e7b 0.0-mxa 0.0-mwk 0.0-3dxq 0.0-3dv6 0.0-3dub
0.0-mnr 0.0-3du3 0.0-3dm7 0.1-3dht 0.0-3dke 0.0-3d9u 0.0-3d93 0.0-lpv 0.0-3cyr 0.0-3ryy 0.0-3cxl 0.0-lfe
0.0-3rws 0.0-3cq8 0.0-3o02 0.0-3cnm 0.0-koh 0.0-kil 0.0-3rt6 0.0-3rsz 0.0-3cii 0.0-k4x 0.0-3rre 0.0-k13 0.0-3chf
0.0-3chg 0.0-3cgn 0.0-jt7 0.0-3cbk 0.0-3ro0 0.0-3c9n 0.0-3c66 0.0-3c5g 0.0-3c3t 0.0-3rju 0.0-iqh 0.0-3bw8
0.0-3bnv 0.0-3bin 0.0-3rcv 0.0-3rc1 0.0-3bfs 0.0-hmq 0.0-3rbt 0.0-hl9 0.0-hdx 0.0-hab 0.0-3b6i 0.0-3r9c 0.0-3b4u
0.0-3b4q 0.0-3b4k 0.0-3b4b 0.0-3b45 0.0-3b35 0.0-gm5 15u.3t6V 5.6jtV f62u.6nI
"

/-- The characters that take the place of one, unless it is disallowed. -/
def mapped? (c : Char) : Option (List Char) := do
  let run ← mappings.findRun? c.toNat
  match run.value with
  | .valid => some [c]
  | .ignored => some []
  | .shift d => some [Char.ofNat (c.toNat + d).toNat]
  | .pairs => some [if (c.toNat - run.first) % 2 = 0 then Char.ofNat (c.toNat + 1) else c]
  | .text cs => some cs

def staysMapped (c : Char) : Bool :=
  mapped? c == some [c]

end PodProbe.Unicode
