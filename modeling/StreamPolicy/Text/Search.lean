/-!
# Searching, splitting and replacing text

All searches go through `cut?`, which splits a text at the first occurrence of a needle. Replacing
and splitting repeat that cut on what follows, so each is one pass from left to right and never
looks again at what it has written. Trimming takes blanks off, the characters with the Unicode property
`White_Space`.
-/

namespace StreamPolicy.Text

/-- What follows `p` when the text begins with it. -/
def after? : List Char → List Char → Option (List Char)
  | [], s => some s
  | _ :: _, [] => none
  | p :: ps, c :: cs => if p = c then after? ps cs else none

theorem after?_eq_some_iff {p s r : List Char} : after? p s = some r ↔ s = p ++ r := by
  induction p generalizing s with
  | nil => simp [after?, eq_comm]
  | cons p ps ih =>
    cases s with
    | nil => simp [after?]
    | cons c cs =>
      by_cases h : p = c
      · simp [after?, h, ih]
      · simp [after?, h, Ne.symm h]

/-- The text before and after the first occurrence of the needle. -/
def cut? (needle : List Char) : List Char → Option (List Char × List Char)
  | [] => (after? needle []).map ([], ·)
  | c :: cs =>
    match after? needle (c :: cs) with
    | some rest => some ([], rest)
    | none => (cut? needle cs).map fun (before, rest) => (c :: before, rest)

theorem eq_of_cut? {needle s a b : List Char} (h : cut? needle s = some (a, b)) :
    s = a ++ needle ++ b := by
  induction s generalizing a with
  | nil =>
    obtain ⟨r, hr, heq⟩ := Option.map_eq_some_iff.1 h
    cases heq
    simpa using after?_eq_some_iff.1 hr
  | cons c cs ih =>
    rw [cut?] at h
    split at h
    next rest hr =>
      cases h
      simpa using after?_eq_some_iff.1 hr
    next =>
      obtain ⟨⟨a', b'⟩, hr, heq⟩ := Option.map_eq_some_iff.1 h
      cases heq
      simp [ih hr]

theorem length_lt_of_cut? {needle s a b : List Char} (hn : needle ≠ [])
    (h : cut? needle s = some (a, b)) : b.length < s.length := by
  have := List.length_pos_iff.2 hn
  rw [eq_of_cut? h]
  simp only [List.length_append]
  omega

def occurs (needle s : List Char) : Bool :=
  (cut? needle s).isSome

def replaceFirst (needle by_ s : List Char) : List Char :=
  match cut? needle s with
  | some (before, rest) => before ++ by_ ++ rest
  | none => s

/-- Every occurrence of the needle is replaced in one pass; an empty needle occurs around every
character. -/
def replaceAll (needle by_ s : List Char) : List Char :=
  if _hn : needle = [] then by_ ++ s.flatMap (fun c => c :: by_)
  else
    match _h : cut? needle s with
    | some (before, rest) => before ++ by_ ++ replaceAll needle by_ rest
    | none => s
termination_by s.length
decreasing_by exact length_lt_of_cut? _hn _h

/-- The pieces between the occurrences of a separator; an empty separator splits nothing. -/
def splitAll (sep s : List Char) : List (List Char) :=
  if _hn : sep = [] then [s]
  else
    match _h : cut? sep s with
    | some (before, rest) => before :: splitAll sep rest
    | none => [s]
termination_by s.length
decreasing_by exact length_lt_of_cut? _hn _h

def startsWith (s p : String) : Bool :=
  p.toList.isPrefixOf s.toList

def endsWith (s p : String) : Bool :=
  p.toList.isSuffixOf s.toList

def contains (s needle : String) : Bool :=
  occurs needle.toList s.toList

def split (s sep : String) : List String :=
  (splitAll sep.toList s.toList).map String.ofList

def splitOnce? (s : String) (sep : Char) : Option (String × String) :=
  (cut? [sep] s.toList).map fun (a, b) => (String.ofList a, String.ofList b)

def join (sep : String) (pieces : List String) : String :=
  String.intercalate sep pieces

/-! ## Blanks -/

/-- The characters with the Unicode property `White_Space`. -/
def isBlank (c : Char) : Bool :=
  let n := c.toNat
  (0x9 ≤ n && n ≤ 0xD) || n = 0x20 || n = 0x85 || n = 0xA0 || n = 0x1680 ||
    (0x2000 ≤ n && n ≤ 0x200A) || n = 0x2028 || n = 0x2029 || n = 0x202F || n = 0x205F || n = 0x3000

def trim (s : String) : String :=
  String.ofList ((s.toList.dropWhile isBlank).reverse.dropWhile isBlank).reverse

def isBlankText (s : String) : Bool :=
  s.toList.all isBlank

end StreamPolicy.Text
