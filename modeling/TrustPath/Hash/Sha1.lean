import TrustPath.Hash.Sha2

/-!
# SHA-1

The older digest of twenty octets, which signatures still name. Its blocks are those of SHA-256;
its rounds come in four groups of twenty.
-/

namespace TrustPath.Sha1

/-- The five words of the state. -/
structure State where
  a : UInt32
  b : UInt32
  c : UInt32
  d : UInt32
  e : UInt32

def rotate (x : UInt32) (n : UInt32) : UInt32 := (x <<< n) ||| (x >>> (32 - n))

def schedule (block : Array UInt32) : Array UInt32 :=
  (List.range 64).foldl
    (fun w i =>
      w.push (rotate
        (w.getD (i + 13) 0 ^^^ w.getD (i + 8) 0 ^^^ w.getD (i + 2) 0 ^^^ w.getD i 0) 1))
    block

def mix (t : Nat) (b c d : UInt32) : UInt32 :=
  if t < 20 then ((b &&& c) ^^^ (~~~b &&& d)) + 0x5a827999
  else if t < 40 then (b ^^^ c ^^^ d) + 0x6ed9eba1
  else if t < 60 then ((b &&& c) ^^^ (b &&& d) ^^^ (c &&& d)) + 0x8f1bbcdc
  else (b ^^^ c ^^^ d) + 0xca62c1d6

def round (s : State) (w : UInt32 × Nat) : State :=
  ⟨rotate s.a 5 + mix w.2 s.b s.c s.d + s.e + w.1, s.a, rotate s.b 30, s.c, s.d⟩

def compress (s : State) (block : Octets) : State :=
  let words := (Sha2.pieces 4 block).map fun bs => UInt32.ofNat (Octets.toNat bs)
  let t := (schedule words.toArray).toList.zipIdx.foldl round s
  ⟨s.a + t.a, s.b + t.b, s.c + t.c, s.d + t.d, s.e + t.e⟩

def sha1 (message : Octets) : Octets :=
  let s := (Sha2.pieces 64 (Sha2.pad 4 message)).foldl compress
    ⟨0x67452301, 0xefcdab89, 0x98badcfe, 0x10325476, 0xc3d2e1f0⟩
  [s.a, s.b, s.c, s.d, s.e].flatMap fun x => Octets.ofNat 4 x.toNat

end TrustPath.Sha1
