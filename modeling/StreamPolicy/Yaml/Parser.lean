import StreamPolicy.Yaml.Lexer
import StreamPolicy.Yaml.Node

/-!
# Reading documents

`Document.parse?` reads a text that holds at most one document. A collection may leave out keys and
values, which are then empty scalars; an entry of a flow sequence may be a mapping of one member.
-/

namespace StreamPolicy.Yaml

/-- What names mean at a place of a document. -/
structure Names where
  anchors : List (List Char × Nat)
  handles : List (List Char × List Char)

namespace Names

/-- Names before anything is named: the two usual handles. -/
def initial : Names :=
  ⟨[], [("!".toList, "!".toList), ("!!".toList, "tag:yaml.org,2002:".toList)]⟩

/-- A node gets a name. Its number is how many names there are. -/
def name (ns : Names) (anchor : List Char) : Names × Nat :=
  let number := ns.anchors.length
  ({ ns with anchors := (anchor, number) :: ns.anchors.filter fun a => a.1 ≠ anchor }, number)

def number? (ns : Names) (anchor : List Char) : Option Nat :=
  (ns.anchors.find? fun a => a.1 = anchor).map Prod.snd

/-- The tag that a handle and a suffix write; an unknown handle writes none. -/
def tag? (ns : Names) (handle suffix : List Char) : Option (List Char) :=
  if handle.isEmpty then some suffix
  else (ns.handles.find? fun h => h.1 = handle).map fun h => h.2 ++ suffix

end Names

/-- What stands before a node: its anchor and its tag, in either order. -/
structure Properties where
  anchor : Option (List Char)
  tag : Option (List Char × List Char)

def properties : List Token → Properties × List Token
  | .anchor a :: .tag h s :: rest => (⟨some a, some (h, s)⟩, rest)
  | .tag h s :: .anchor a :: rest => (⟨some a, some (h, s)⟩, rest)
  | .anchor a :: rest => (⟨some a, none⟩, rest)
  | .tag h s :: rest => (⟨none, some (h, s)⟩, rest)
  | rest => (⟨none, none⟩, rest)

/-- Reading goes on with names and the remaining tokens. -/
abbrev Read (α : Type) := Option (α × Names × List Token)

def endsBlockNode : List Token → Bool
  | .key :: _ => true
  | .value :: _ => true
  | .blockEnd :: _ => true
  | _ => false

def endsFlowMember : List Token → Bool
  | .value :: _ => true
  | .flowEntry :: _ => true
  | .flowMappingEnd :: _ => true
  | _ => false

def endsFlowPair : List Token → Bool
  | .value :: _ => true
  | .flowEntry :: _ => true
  | .flowSequenceEnd :: _ => true
  | _ => false

mutual

/-- The node at the front of some tokens. A block collection may stand only where `block` holds, and
entries without a sequence around them only where `loose` holds. `fuel` bounds the steps. -/
def node? : Nat → Bool → Bool → Names → List Token → Read Node
  | 0, _, _, _, _ => none
  | _ + 1, _, _, ns, .alias name :: rest => (ns.number? name).map fun n => (.alias n, ns, rest)
  | fuel + 1, block, loose, ns, ts =>
    let (ps, ts) := properties ts
    let tag? : Option (Option (List Char)) :=
      match ps.tag with
      | none => some none
      | some (h, s) => (ns.tag? h s).map some
    match tag? with
    | none => none
    | some tag =>
      let (ns, anchor) : Names × Option Nat :=
        match ps.anchor with
        | none => (ns, none)
        | some a => ((ns.name a).1, some (ns.name a).2)
      let tagText := tag.map String.ofList
      let plain := (ps.anchor.isNone && ps.tag.isNone)
      match ts with
      | .blockEntry :: _ =>
        if loose then (looseEntries? fuel ns ts).map fun (items, r) => (.seq anchor tagText items, r)
        else if plain then none else some (.scalar anchor tagText .plain "", ns, ts)
      | .scalar text style :: rest =>
        let tagText := if tag = some ['!'] then none else tagText
        some (.scalar anchor tagText style (String.ofList text), ns, rest)
      | .flowSequenceStart :: rest =>
        (flowItems? fuel true ns rest).map fun (items, r) => (.seq anchor tagText items, r)
      | .flowMappingStart :: rest =>
        (flowMembers? fuel true ns rest).map fun (ms, r) => (.map anchor tagText ms, r)
      | .blockSequenceStart :: rest =>
        if block then (blockItems? fuel ns rest).map fun (items, r) => (.seq anchor tagText items, r)
        else if plain then none else some (.scalar anchor tagText .plain "", ns, ts)
      | .blockMappingStart :: rest =>
        if block then (blockMembers? fuel ns rest).map fun (ms, r) => (.map anchor tagText ms, r)
        else if plain then none else some (.scalar anchor tagText .plain "", ns, ts)
      | _ => if plain then none else some (.scalar anchor tagText .plain "", ns, ts)

def blockItems? : Nat → Names → List Token → Read (List Node)
  | 0, _, _ => none
  | fuel + 1, ns, ts =>
    match ts with
    | .blockEnd :: rest => some ([], ns, rest)
    | .blockEntry :: rest =>
      let item : Read Node :=
        match rest with
        | .blockEntry :: _ => some (.nothing, ns, rest)
        | .blockEnd :: _ => some (.nothing, ns, rest)
        | _ => node? fuel true false ns rest
      match item with
      | none => none
      | some (n, ns, rest) => (blockItems? fuel ns rest).map fun (items, r) => (n :: items, r)
    | _ => none

/-- Entries without a sequence around them, as the value of a key in the same column. -/
def looseEntries? : Nat → Names → List Token → Read (List Node)
  | 0, _, _ => none
  | fuel + 1, ns, ts =>
    match ts with
    | .blockEntry :: rest =>
      let item : Read Node :=
        match rest with
        | .blockEntry :: _ => some (.nothing, ns, rest)
        | rest => if endsBlockNode rest then some (.nothing, ns, rest) else node? fuel true false ns rest
      match item with
      | none => none
      | some (n, ns, rest) => (looseEntries? fuel ns rest).map fun (items, r) => (n :: items, r)
    | _ => some ([], ns, ts)

def blockMembers? : Nat → Names → List Token → Read (List (Node × Node))
  | 0, _, _ => none
  | fuel + 1, ns, ts =>
    let withValue (k : Node) (ns : Names) (ts : List Token) : Read (List (Node × Node)) :=
      let value : Read Node :=
        match ts with
        | .value :: rest =>
          if endsBlockNode rest then some (.nothing, ns, rest) else node? fuel true true ns rest
        | _ => some (.nothing, ns, ts)
      match value with
      | none => none
      | some (v, ns, rest) => (blockMembers? fuel ns rest).map fun (ms, r) => ((k, v) :: ms, r)
    match ts with
    | .blockEnd :: rest => some ([], ns, rest)
    | .key :: rest =>
      if endsBlockNode rest then withValue .nothing ns rest
      else
        match node? fuel true true ns rest with
        | none => none
        | some (k, ns, rest) => withValue k ns rest
    | _ => none

def flowItems? : Nat → Bool → Names → List Token → Read (List Node)
  | 0, _, _, _ => none
  | fuel + 1, first, ns, ts =>
    let go (ts : List Token) : Read (List Node) :=
      match ts with
      | .flowSequenceEnd :: rest => some ([], ns, rest)
      | .key :: rest =>
        match flowPair? fuel ns rest with
        | none => none
        | some (n, ns, rest) => (flowItems? fuel false ns rest).map fun (items, r) => (n :: items, r)
      | ts =>
        match node? fuel false false ns ts with
        | none => none
        | some (n, ns, rest) => (flowItems? fuel false ns rest).map fun (items, r) => (n :: items, r)
    match ts with
    | .flowSequenceEnd :: rest => some ([], ns, rest)
    | .flowEntry :: rest => if first then none else go rest
    | ts => if first then go ts else none

/-- A mapping of one member as an item of a flow sequence. A key that is left out takes the mark
behind it along. -/
def flowPair? : Nat → Names → List Token → Read Node
  | 0, _, _ => none
  | fuel + 1, ns, ts =>
    let key : Read Node :=
      if endsFlowPair ts then some (.nothing, ns, ts.drop 1) else node? fuel false false ns ts
    match key with
    | none => none
    | some (k, ns, ts) =>
      let value : Read Node :=
        match ts with
        | .value :: rest =>
          match rest with
          | .flowEntry :: _ => some (.nothing, ns, rest)
          | .flowSequenceEnd :: _ => some (.nothing, ns, rest)
          | _ => node? fuel false false ns rest
        | _ => some (.nothing, ns, ts)
      value.map fun (v, r) => (.map none none [(k, v)], r)

def flowMembers? : Nat → Bool → Names → List Token → Read (List (Node × Node))
  | 0, _, _, _ => none
  | fuel + 1, first, ns, ts =>
    let next (k v : Node) (ns : Names) (ts : List Token) : Read (List (Node × Node)) :=
      (flowMembers? fuel false ns ts).map fun (ms, r) => ((k, v) :: ms, r)
    let withValue (k : Node) (ns : Names) (ts : List Token) : Read (List (Node × Node)) :=
      match ts with
      | .value :: rest =>
        match rest with
        | .flowEntry :: _ => next k .nothing ns rest
        | .flowMappingEnd :: _ => next k .nothing ns rest
        | _ =>
          match node? fuel false false ns rest with
          | none => none
          | some (v, ns, rest) => next k v ns rest
      | _ => next k .nothing ns ts
    let go (ts : List Token) : Read (List (Node × Node)) :=
      match ts with
      | .flowMappingEnd :: rest => some ([], ns, rest)
      | .key :: rest =>
        if endsFlowMember rest then withValue .nothing ns rest
        else
          match node? fuel false false ns rest with
          | none => none
          | some (k, ns, rest) => withValue k ns rest
      | ts =>
        match node? fuel false false ns ts with
        | none => none
        | some (k, ns, rest) => next k .nothing ns rest
    match ts with
    | .flowMappingEnd :: rest => some ([], ns, rest)
    | .flowEntry :: rest => if first then none else go rest
    | ts => if first then go ts else none

end

/-- The directives at the front of some tokens: the handles they define, and whether a version stands
among them. No handle may be defined twice, and the version must be 1.1 or 1.2. -/
def directives? (handles : List (List Char × List Char)) (versioned : Bool) :
    List Token → Option (List (List Char × List Char) × List Token)
  | .version major minor :: rest =>
    if versioned || major ≠ 1 || !(minor = 1 || minor = 2) then none
    else directives? handles true rest
  | .tagHandle h m :: rest =>
    if handles.any fun x => x.1 = h then none else directives? (handles ++ [(h, m)]) versioned rest
  | rest => some (handles, rest)

def endsDocument : List Token → Bool
  | [] => true
  | .version _ _ :: _ => true
  | .tagHandle _ _ :: _ => true
  | .documentStart :: _ => true
  | .documentEnd :: _ => true
  | _ => false

def startsMarked : List Token → Bool
  | .version _ _ :: _ => true
  | .tagHandle _ _ :: _ => true
  | .documentStart :: _ => true
  | _ => false

def root? (ts : List Token) : Option Node :=
  let fuel := 2 * ts.length + 2
  let read? : Read Node :=
    if startsMarked ts then
      match directives? [] false ts with
      | some (handles, .documentStart :: rest) =>
        let ns := { Names.initial with handles := handles ++ Names.initial.handles }
        if endsDocument rest then some (.nothing, ns, rest) else node? fuel true false ns rest
      | _ => none
    else node? fuel true false .initial ts
  match read? with
  | some (n, _, rest) =>
    if (rest.dropWhile (· = .documentEnd)).isEmpty then some n else none
  | none => none

def Document.parse? (s : String) : Option Document :=
  match tokens? s.toList with
  | none => none
  | some [] => some ⟨none, [], 100⟩
  | some ts => (root? ts).map Document.ofRoot

end StreamPolicy.Yaml
