/-!
# UTF-8

A text as bytes, and back. Reading replaces every maximal ill-formed piece by one replacement
character, so it never fails; reading what was written gives the text back.
-/

namespace StreamPolicy.Text.Utf8

def tail (bits : Nat) : UInt8 :=
  UInt8.ofNat (0x80 + bits % 64)

/-- The bytes of one character: one, two, three or four by the size of its code point. -/
def encodeChar (c : Char) : List UInt8 :=
  let n := c.toNat
  if n < 0x80 then [UInt8.ofNat n]
  else if n < 0x800 then [UInt8.ofNat (0xC0 + n / 64), tail n]
  else if n < 0x10000 then [UInt8.ofNat (0xE0 + n / 4096), tail (n / 64), tail n]
  else [UInt8.ofNat (0xF0 + n / 262144), tail (n / 4096), tail (n / 64), tail n]

def encode (s : List Char) : List UInt8 :=
  s.flatMap encodeChar

def within (lo hi : Nat) (b : UInt8) : Bool :=
  lo ≤ b.toNat && b.toNat ≤ hi

/-- The bounds of the byte that may follow a lead byte of a longer sequence: the first
continuation byte is narrowed where a shorter form, a surrogate or a value past the last code
point would be written. -/
def secondBounds (lead : Nat) : Nat × Nat :=
  if lead = 0xE0 then (0xA0, 0xBF)
  else if lead = 0xED then (0x80, 0x9F)
  else if lead = 0xF0 then (0x90, 0xBF)
  else if lead = 0xF4 then (0x80, 0x8F)
  else (0x80, 0xBF)

def bits (b : UInt8) : Nat :=
  b.toNat % 64

inductive Piece where
  | char (c : Char) (rest : List UInt8)
  /-- A maximal ill-formed piece was passed over. -/
  | broken (rest : List UInt8)

def step (lead : UInt8) (rest : List UInt8) : Piece :=
  let n := lead.toNat
  if n < 0x80 then .char (Char.ofNat n) rest
  else if 0xC2 ≤ n && n ≤ 0xDF then
    match rest with
    | b :: r =>
      if within 0x80 0xBF b then .char (Char.ofNat (n % 32 * 64 + bits b)) r else .broken rest
    | [] => .broken rest
  else if 0xE0 ≤ n && n ≤ 0xEF then
    match rest with
    | b :: r =>
      if within (secondBounds n).1 (secondBounds n).2 b then
        match r with
        | c :: r' =>
          if within 0x80 0xBF c then
            .char (Char.ofNat (n % 16 * 4096 + bits b * 64 + bits c)) r'
          else .broken r
        | [] => .broken r
      else .broken rest
    | [] => .broken rest
  else if 0xF0 ≤ n && n ≤ 0xF4 then
    match rest with
    | b :: r =>
      if within (secondBounds n).1 (secondBounds n).2 b then
        match r with
        | c :: r' =>
          if within 0x80 0xBF c then
            match r' with
            | d :: r'' =>
              if within 0x80 0xBF d then
                .char (Char.ofNat (n % 8 * 262144 + bits b * 4096 + bits c * 64 + bits d)) r''
              else .broken r'
            | [] => .broken r'
          else .broken r
        | [] => .broken r
      else .broken rest
    | [] => .broken rest
  else .broken rest

def Piece.rest : Piece → List UInt8
  | .char _ r => r
  | .broken r => r

theorem length_step_le (lead : UInt8) (rest : List UInt8) :
    (step lead rest).rest.length ≤ rest.length := by
  unfold step
  dsimp only
  repeat' split
  all_goals (simp only [Piece.rest, List.length_cons]; omega)

/-- The text that some bytes write, with U+FFFD for each maximal ill-formed piece. -/
def decodeLossy : List UInt8 → List Char
  | [] => []
  | lead :: rest =>
    match _h : step lead rest with
    | .char c r => c :: decodeLossy r
    | .broken r => Char.ofNat 0xFFFD :: decodeLossy r
termination_by s => s.length
decreasing_by
  all_goals
    have := length_step_le lead rest
    rw [_h] at this
    simp only [Piece.rest] at this
    simp only [List.length_cons]
    omega

/-- The text that some bytes write, when they are well formed throughout. -/
def decode? : List UInt8 → Option (List Char)
  | [] => some []
  | lead :: rest =>
    match _h : step lead rest with
    | .char c r => (decode? r).map (c :: ·)
    | .broken _ => none
termination_by s => s.length
decreasing_by
  have := length_step_le lead rest
  rw [_h] at this
  simp only [Piece.rest] at this
  simp only [List.length_cons]
  omega

end StreamPolicy.Text.Utf8
