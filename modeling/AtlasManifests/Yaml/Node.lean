import AtlasManifests.Yaml.TokenList

/-! # Nodes

The tree that the tokens of a document make up: scalars, sequences and mappings, each
with the tag that was written for it, and aliases for nodes with an anchor. Where a
node is missing, an empty text stands.
-/
namespace AtlasManifests.Yaml

/-- A node of a document. -/
inductive Node where
  | scalar (tag : Option String) (style : Style) (text : String)
  | sequence (tag : Option String) (items : List Node)
  | mapping (tag : Option String) (members : List (Node × Node))
  /-- The number of an anchor; missing within the node that has the anchor. -/
  | alias (number : Option Nat)

instance : Inhabited Node := ⟨.alias none⟩

/-- What stands where a node is missing. -/
def Node.nothing : Node := .scalar none .plain ""

/-- A node that has an anchor. -/
structure Anchored where
  number : Nat
  /-- How many anchors come before it. -/
  order : Nat
  node : Node

/-- How far the tokens of a document have been read. -/
structure Reader where
  tokens : List Token
  /-- What the handles of tags stand for. -/
  handles : List (String × String)
  /-- The numbers of anchors by name: how many names there were before. -/
  numbers : List (String × Nat) := []
  anchors : Nat := 0
  anchored : List Anchored := []

namespace Reader

variable (r : Reader)

/-- The reader after some tokens. -/
def after (tokens : List Token) : Reader := { r with tokens }

/-- The reader without the next token. -/
def skip : Reader := { r with tokens := r.tokens.drop 1 }

/-- Whether the next token is one of some tokens. -/
def sees (tokens : List Token) : Bool := r.tokens.head?.any tokens.contains

/-- The reader with a number for an anchor, and what it takes to keep its node. -/
def anchor (name : Option String) : Reader × Option (Nat × Nat) :=
  match name with
  | none => (r, none)
  | some name =>
    let number := r.numbers.length
    let numbers := (name, number) :: r.numbers.filter (·.1 != name)
    ({ r with numbers, anchors := r.anchors + 1 }, some (number, r.anchors))

/-- The reader that has kept a node under its anchor. -/
def keep (place : Option (Nat × Nat)) (node : Node) : Reader :=
  match place with
  | none => r
  | some (number, order) => { r with anchored := ⟨number, order, node⟩ :: r.anchored }

/-- The anchor and the tag before a node, in either order. -/
def properties : Option String × Option (String × String) × Reader :=
  match r.tokens with
  | .anchor a :: .tag handle suffix :: rest => (some a, some (handle, suffix), r.after rest)
  | .tag handle suffix :: .anchor a :: rest => (some a, some (handle, suffix), r.after rest)
  | .anchor a :: rest => (some a, none, r.after rest)
  | .tag handle suffix :: rest => (none, some (handle, suffix), r.after rest)
  | _ => (none, none, r)

/-- A tag with its handle replaced by what it stands for. -/
def expand? (handle suffix : String) : Option String :=
  if handle.isEmpty then some suffix else (r.handles.lookup handle).map (· ++ suffix)

/-- The tag of a node, which may have none. -/
def tagOf? : Option (String × String) → Option (Option String)
  | none => some none
  | some (handle, suffix) => (r.expand? handle suffix).map some

/-- Whether the content of a node begins here. -/
def beginsNode (block indentless : Bool) : Bool :=
  match r.tokens with
  | .scalar _ _ :: _ => true
  | .flowSequence :: _ => true
  | .flowMapping :: _ => true
  | .blockSequence :: _ => block
  | .blockMapping :: _ => block
  | .blockEntry :: _ => indentless
  | _ => false

mutual

/-- A node. In a block it may be a block collection, and below a key a sequence whose
items are in the column of the key. -/
def node? : Nat → (block indentless : Bool) → Reader → Option (Node × Reader)
  | 0, _, _, _ => none
  | fuel + 1, block, indentless, r =>
    match r.tokens with
    | .alias name :: rest =>
      (r.numbers.lookup name).map fun number =>
        (.alias (if r.anchored.any (·.number == number) then some number else none), r.after rest)
    | _ => do
      let (anchor, written, r) := r.properties
      let tag ← r.tagOf? written
      let (r, place) := r.anchor anchor
      let (node, r) ←
        if r.beginsNode block indentless then content? fuel tag r
        else if anchor.isSome || tag.isSome then some (.scalar tag .plain "", r)
        else none
      return (node, r.keep place node)

/-- A node after its anchor and its tag. -/
def content? : Nat → Option String → Reader → Option (Node × Reader)
  | 0, _, _ => none
  | fuel + 1, tag, r =>
    match r.tokens with
    | .scalar style text :: rest => some (.scalar (tag.filter (· != "!")) style text, r.after rest)
    | .blockEntry :: _ => (entries? fuel r).map fun (items, r) => (.sequence tag items, r)
    | .blockSequence :: rest =>
      (items? fuel (r.after rest)).map fun (items, r) => (.sequence tag items, r)
    | .blockMapping :: rest =>
      (members? fuel (r.after rest)).map fun (members, r) => (.mapping tag members, r)
    | .flowSequence :: rest =>
      (flowItems? fuel true (r.after rest)).map fun (items, r) => (.sequence tag items, r)
    | .flowMapping :: rest =>
      (flowMembers? fuel true (r.after rest)).map fun (members, r) => (.mapping tag members, r)
    | _ => none

/-- A node, or nothing if one of some tokens is next. -/
def nodeUnless? : Nat → List Token → (block indentless : Bool) → Reader → Option (Node × Reader)
  | 0, _, _, _, _ => none
  | fuel + 1, ends, block, indentless, r =>
    if r.sees ends then some (.nothing, r) else node? fuel block indentless r

/-- The items of a sequence in a block. -/
def items? : Nat → Reader → Option (List Node × Reader)
  | 0, _ => none
  | fuel + 1, r =>
    match r.tokens with
    | .blockEntry :: rest => do
      let (item, r) ← nodeUnless? fuel [.blockEntry, .blockEnd] true false (r.after rest)
      let (items, r) ← items? fuel r
      return (item :: items, r)
    | .blockEnd :: rest => some ([], r.after rest)
    | _ => none

/-- The items of a sequence in the column of its key. -/
def entries? : Nat → Reader → Option (List Node × Reader)
  | 0, _ => none
  | fuel + 1, r =>
    match r.tokens with
    | .blockEntry :: rest => do
      let ends := [.blockEntry, .key, .value, .blockEnd]
      let (item, r) ← nodeUnless? fuel ends true false (r.after rest)
      let (items, r) ← entries? fuel r
      return (item :: items, r)
    | _ => some ([], r)

/-- The members of a mapping in a block. -/
def members? : Nat → Reader → Option (List (Node × Node) × Reader)
  | 0, _ => none
  | fuel + 1, r =>
    match r.tokens with
    | .key :: rest => do
      let ends := [.key, .value, .blockEnd]
      let (key, r) ← nodeUnless? fuel ends true true (r.after rest)
      let (value, r) ←
        if r.sees [.value] then nodeUnless? fuel ends true true r.skip else some (.nothing, r)
      let (members, r) ← members? fuel r
      return ((key, value) :: members, r)
    | .blockEnd :: rest => some ([], r.after rest)
    | _ => none

/-- The items of a sequence between brackets. A member of a mapping stands for a
mapping of its own. -/
def flowItems? : Nat → (first : Bool) → Reader → Option (List Node × Reader)
  | 0, _, _ => none
  | fuel + 1, first, r => do
    if r.sees [.flowSequenceEnd] then return ([], r.skip)
    if !first && !r.sees [.flowEntry] then none
    let r := if first then r else r.skip
    if r.sees [.flowSequenceEnd] then return ([], r.skip)
    let (item, r) ←
      if r.sees [.key] then pair? fuel r.skip else node? fuel false false r
    let (items, r) ← flowItems? fuel false r
    return (item :: items, r)

/-- A mapping of one member, which needs no brackets of its own within a sequence. Of a
missing key its colon is taken. -/
def pair? : Nat → Reader → Option (Node × Reader)
  | 0, _ => none
  | fuel + 1, r => do
    let (key, r) ←
      if r.sees [.value, .flowEntry, .flowSequenceEnd] then some (Node.nothing, r.skip)
      else node? fuel false false r
    let (value, r) ←
      if r.sees [.value] then
        nodeUnless? fuel [.flowEntry, .flowSequenceEnd] false false r.skip
      else some (Node.nothing, r)
    return (.mapping none [(key, value)], r)

/-- The members of a mapping between brackets. A key may stand without a value. -/
def flowMembers? : Nat → (first : Bool) → Reader → Option (List (Node × Node) × Reader)
  | 0, _, _ => none
  | fuel + 1, first, r => do
    if r.sees [.flowMappingEnd] then return ([], r.skip)
    if !first && !r.sees [.flowEntry] then none
    let r := if first then r else r.skip
    if r.sees [.flowMappingEnd] then return ([], r.skip)
    let (member, r) ←
      if r.sees [.key] then do
        let (key, r) ←
          nodeUnless? fuel [.value, .flowEntry, .flowMappingEnd] false false r.skip
        let (value, r) ←
          if r.sees [.value] then
            nodeUnless? fuel [.flowEntry, .flowMappingEnd] false false r.skip
          else some (.nothing, r)
        pure ((key, value), r)
      else do
        let (key, r) ← node? fuel false false r
        pure ((key, .nothing), r)
    let (members, r) ← flowMembers? fuel false r
    return (member :: members, r)

end

end Reader

/-! ## Documents -/

/-- The document of a text: its root, if it has one, and the nodes with an anchor. -/
structure Document where
  root : Option Node
  anchored : List Anchored

namespace Document

/-- What the handles of tags stand for unless a document says otherwise. -/
def usualHandles : List (String × String) := [("!", "!"), ("!!", "tag:yaml.org,2002:")]

/-- The directives before a document: at most one version, which has to be known, and
each handle at most once. -/
def directives? (version : Bool) (handles : List (String × String)) :
    List Token → Option (List (String × String) × List Token)
  | .version major minor :: rest =>
    if !version && major == 1 && (minor == 1 || minor == 2) then directives? true handles rest
    else none
  | .handle name expansion :: rest =>
    if (handles.lookup name).isSome then none
    else directives? version ((name, expansion) :: handles) rest
  | rest => some (handles, rest)

/-- The document with a root, after which nothing but ends may follow. -/
def finish? (root : Node) (r : Reader) : Option Document :=
  if (r.tokens.dropWhile (· == .documentEnd)).isEmpty then some ⟨some root, r.anchored⟩ else none

/-- The document of a reader that is at its root. -/
def ofRoot? (r : Reader) : Option Document :=
  (r.node? (4 * r.tokens.length + 4) true false).bind fun (root, r) => finish? root r

/-- The document of some tokens. After a mark of its own its root may be missing. -/
def ofTokens? (tokens : List Token) : Option Document := do
  let (handles, rest) ← directives? false [] tokens
  let handles := handles ++ usualHandles
  match rest with
  | .documentStart :: rest =>
    let r : Reader := { tokens := rest, handles }
    if rest.isEmpty || r.sees [.documentEnd] then finish? .nothing r else ofRoot? r
  | [] => if tokens.isEmpty then return ⟨none, []⟩ else none
  | _ => if rest.length < tokens.length then none else ofRoot? { tokens, handles }

/-- The only document of a text. -/
def ofText? (text : String) : Option Document := (tokens? text).bind ofTokens?

end Document

end AtlasManifests.Yaml
