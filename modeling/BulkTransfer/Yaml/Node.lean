import BulkTransfer.Yaml.Lexer
/-!
# YAML documents as nodes

Nodes are read from tokens. An alias then refers to an anchor by number: an anchor has the number of
names that are known when it is met, and an alias stands for the last node with that number.
-/
namespace BulkTransfer.Yaml

/-- What may stand in front of a node. -/
structure Properties (ν : Type) where
  anchor : Option ν
  tag : Option String
  deriving Repr

/-- A node; `ν` is what its anchors are known by. -/
inductive Node (ν : Type) where
  | scalar (properties : Properties ν) (style : ScalarStyle) (text : String)
  | list (properties : Properties ν) (items : List (Node ν))
  | map (properties : Properties ν) (pairs : List (Node ν × Node ν))
  | aliasOf (anchor : ν)
  deriving Repr

def Properties.none {ν : Type} : Properties ν := ⟨Option.none, Option.none⟩

namespace Node

/-- What stands where nothing is written. -/
def blank {ν : Type} : Node ν := .scalar Properties.none .plain ""

/-- Tag handles with what they stand for. -/
abbrev Handles := List (String × String)

def defaultHandles : Handles := [("!", "!"), ("!!", "tag:yaml.org,2002:")]

def expand (handles : Handles) (handle suffix : String) : Lexing String :=
  if handle.isEmpty then .ok suffix
  else match handles.lookup handle with
    | some expansion => .ok (expansion ++ suffix)
    | none => .error .undefinedTagHandle

/-- An anchor and a tag, in either order. -/
def properties (handles : Handles) :
    List Token → Lexing (Properties String × List Token)
  | .anchor name :: .tag handle suffix :: rest
  | .tag handle suffix :: .anchor name :: rest => do
    return (⟨some name, some (← expand handles handle suffix)⟩, rest)
  | .anchor name :: rest => .ok (⟨some name, none⟩, rest)
  | .tag handle suffix :: rest => do
    return (⟨none, some (← expand handles handle suffix)⟩, rest)
  | rest => .ok (Properties.none, rest)

/-- The lone mark on a scalar says no more than that its kind is the usual one. -/
def scalarOf (p : Properties String) (style : ScalarStyle) (text : String) :
    Node String :=
  .scalar (if p.tag = some "!" then { p with tag := none } else p) style text

def endsBlockItem : List Token → Bool
  | .blockEntry :: _ | .blockEnd :: _ => true
  | _ => false

def endsBlockPart : List Token → Bool
  | .key :: _ | .value :: _ | .blockEnd :: _ => true
  | _ => false

def endsLooseItem (ts : List Token) : Bool := endsBlockItem ts || endsBlockPart ts

def endsFlowMapPart : List Token → Bool
  | .flowEntry :: _ | .flowMapEnd :: _ => true
  | _ => false

def endsFlowPairValue : List Token → Bool
  | .flowEntry :: _ | .flowListEnd :: _ => true
  | _ => false

/-- Behind the first item of a flow collection each further one needs a comma. -/
def afterComma (isFirst : Bool) (ts : List Token) : Lexing (List Token) :=
  match isFirst, ts with
  | true, _ => .ok ts
  | false, .flowEntry :: rest => .ok rest
  | false, _ => .error .unexpectedToken

mutual

/-- One node. Blocks are allowed only inside blocks; in a map, the entries of a list need no
indentation of their own. -/
def node (handles : Handles) (inBlock loose : Bool) :
    Nat → List Token → Lexing (Node String × List Token)
  | 0, _ => .error .unexpectedToken
  | _ + 1, .aliasOf name :: rest => .ok (.aliasOf name, rest)
  | fuel + 1, ts => do
    let (p, rest) ← properties handles ts
    match rest, inBlock, loose with
    | .blockEntry :: _, _, true =>
      let (items, rest) ← looseItems handles fuel rest
      return (.list p items, rest)
    | .scalar style text :: rest, _, _ => return (scalarOf p style text, rest)
    | .flowListStart :: rest, _, _ =>
      let (items, rest) ← flowItems handles true fuel rest
      return (.list p items, rest)
    | .flowMapStart :: rest, _, _ =>
      let (pairs, rest) ← flowPairs handles true fuel rest
      return (.map p pairs, rest)
    | .blockListStart :: rest, true, _ =>
      let (items, rest) ← blockItems handles fuel rest
      return (.list p items, rest)
    | .blockMapStart :: rest, true, _ =>
      let (pairs, rest) ← blockPairs handles fuel rest
      return (.map p pairs, rest)
    | _, _, _ =>
      if p.anchor.isSome || p.tag.isSome then return (.scalar p .plain "", rest)
      else throw .unexpectedToken

def blockItems (handles : Handles) :
    Nat → List Token → Lexing (List (Node String) × List Token)
  | fuel + 1, .blockEntry :: rest => do
    let (item, rest) ←
      if endsBlockItem rest then pure (blank, rest) else node handles true false fuel rest
    let (items, rest) ← blockItems handles fuel rest
    return (item :: items, rest)
  | _ + 1, .blockEnd :: rest => .ok ([], rest)
  | _, _ => .error .unexpectedToken

/-- The items of a list that is indented like the map around it. -/
def looseItems (handles : Handles) :
    Nat → List Token → Lexing (List (Node String) × List Token)
  | fuel + 1, .blockEntry :: rest => do
    let (item, rest) ←
      if endsLooseItem rest then pure (blank, rest) else node handles true false fuel rest
    let (items, rest) ← looseItems handles fuel rest
    return (item :: items, rest)
  | _ + 1, rest => .ok ([], rest)
  | 0, _ => .error .unexpectedToken

def blockPairs (handles : Handles) :
    Nat → List Token → Lexing (List (Node String × Node String) × List Token)
  | _ + 1, .blockEnd :: rest => .ok ([], rest)
  | fuel + 1, .key :: rest => do
    let (key, rest) ←
      if endsBlockPart rest then pure (blank, rest) else node handles true true fuel rest
    let (value, rest) ← blockValue handles fuel rest
    let (pairs, rest) ← blockPairs handles fuel rest
    return ((key, value) :: pairs, rest)
  | _, _ => .error .unexpectedToken

def blockValue (handles : Handles) : Nat → List Token → Lexing (Node String × List Token)
  | fuel + 1, .value :: rest =>
    if endsBlockPart rest then .ok (blank, rest) else node handles true true fuel rest
  | _ + 1, rest => .ok (blank, rest)
  | 0, _ => .error .unexpectedToken

def flowItems (handles : Handles) (isFirst : Bool) :
    Nat → List Token → Lexing (List (Node String) × List Token)
  | 0, _ => .error .unexpectedToken
  | _ + 1, .flowListEnd :: rest => .ok ([], rest)
  | fuel + 1, ts => do
    match ← afterComma isFirst ts with
    | .flowListEnd :: rest => return ([], rest)
    | .key :: rest =>
      let (pair, rest) ← flowPair handles fuel rest
      let (items, rest) ← flowItems handles false fuel rest
      return (.map Properties.none [pair] :: items, rest)
    | rest =>
      let (item, rest) ← node handles false false fuel rest
      let (items, rest) ← flowItems handles false fuel rest
      return (item :: items, rest)

/-- A pair inside a flow list. A key that is left out takes the token after it along. -/
def flowPair (handles : Handles) :
    Nat → List Token → Lexing ((Node String × Node String) × List Token)
  | 0, _ => .error .unexpectedToken
  | fuel + 1, ts => do
    let (key, rest) ← match ts with
      | .value :: rest | .flowEntry :: rest | .flowListEnd :: rest => pure (blank, rest)
      | _ => node handles false false fuel ts
    match rest with
    | .value :: rest =>
      if endsFlowPairValue rest then return ((key, blank), rest)
      let (value, rest) ← node handles false false fuel rest
      return ((key, value), rest)
    | _ => return ((key, blank), rest)

def flowPairs (handles : Handles) (isFirst : Bool) :
    Nat → List Token → Lexing (List (Node String × Node String) × List Token)
  | 0, _ => .error .unexpectedToken
  | _ + 1, .flowMapEnd :: rest => .ok ([], rest)
  | fuel + 1, ts => do
    match ← afterComma isFirst ts with
    | .flowMapEnd :: rest => return ([], rest)
    | .key :: rest =>
      let (key, rest) ← match rest with
        | .value :: _ => pure (blank, rest)
        | _ =>
          if endsFlowMapPart rest then pure (blank, rest)
          else node handles false false fuel rest
      let (value, rest) ← match rest with
        | .value :: rest =>
          if endsFlowMapPart rest then pure (blank, rest)
          else node handles false false fuel rest
        | _ => pure (blank, rest)
      let (pairs, rest) ← flowPairs handles false fuel rest
      return ((key, value) :: pairs, rest)
    | rest =>
      let (key, rest) ← node handles false false fuel rest
      let (pairs, rest) ← flowPairs handles false fuel rest
      return ((key, blank) :: pairs, rest)

end

/-- The directives in front of a document. -/
def directives :
    List Token → (hasVersion : Bool) → Handles → Lexing (Handles × List Token)
  | .version major minor :: rest, hasVersion, handles =>
    if hasVersion then .error .repeatedDirective
    else if major = 1 ∧ (minor = 1 ∨ minor = 2) then directives rest true handles
    else .error .unsupportedVersion
  | .tagDirective handle expansion :: rest, hasVersion, handles =>
    if (handles.lookup handle).isSome then .error .repeatedDirective
    else directives rest hasVersion (handles ++ [(handle, expansion)])
  | rest, _, handles => .ok (handles ++ defaultHandles, rest)

def startsDocument : List Token → Bool
  | [] | .version _ _ :: _ | .tagDirective _ _ :: _ | .documentStart :: _ => true
  | _ => false

def endsContent : List Token → Bool
  | .documentEnd :: _ => true
  | ts => startsDocument ts

/-- The only document of a text; a text without one is blank. Every node takes a token or ends
another one, so twice the number of tokens bounds the depth of the reading. -/
def ofTokens (ts : List Token) : Lexing (Node String) := do
  let fuel := 2 * ts.length + 2
  let (root, rest) ←
    if ts.isEmpty then pure (blank, ts)
    else if startsDocument ts then
      match ← directives ts false [] with
      | (handles, .documentStart :: rest) =>
        if endsContent rest then pure (blank, rest)
        else node handles true false fuel rest
      | _ => throw .unexpectedToken
    else node defaultHandles true false fuel ts
  if (rest.dropWhile (· = .documentEnd)).isEmpty then return root
  throw .moreThanOneDocument

section Linking

/-- The anchors met so far with their numbers. -/
abbrev AnchorNumbers := List (String × Nat)

abbrev Linking := StateT AnchorNumbers Lexing

def linkProperties (p : Properties String) : Linking (Properties Nat) := do
  match p.anchor with
  | none => return ⟨none, p.tag⟩
  | some name =>
    let known ← get
    let number := known.length
    set ((name, number) :: known.filter (·.1 ≠ name))
    return ⟨some number, p.tag⟩

mutual

def link : Node String → Linking (Node Nat)
  | .scalar p style text => do return .scalar (← linkProperties p) style text
  | .list p items => do
    let p ← linkProperties p
    return .list p (← linkItems items)
  | .map p pairs => do
    let p ← linkProperties p
    return .map p (← linkPairs pairs)
  | .aliasOf name => do
    match (← get).lookup name with
    | some number => return .aliasOf number
    | none => throw .unknownAlias

def linkItems : List (Node String) → Linking (List (Node Nat))
  | [] => return []
  | item :: rest => do
    let item ← link item
    return item :: (← linkItems rest)

def linkPairs :
    List (Node String × Node String) → Linking (List (Node Nat × Node Nat))
  | [] => return []
  | (key, value) :: rest => do
    let key ← link key
    let value ← link value
    return (key, value) :: (← linkPairs rest)

end

def definition (n : Node Nat) (p : Properties Nat) : List (Nat × Node Nat) :=
  match p.anchor with
  | some number => [(number, n)]
  | none => []

mutual

/-- The anchored nodes in the order in which they start. -/
def definitions : Node Nat → List (Nat × Node Nat)
  | .scalar p style text => definition (.scalar p style text) p
  | .list p items => definition (.list p items) p ++ itemDefinitions items
  | .map p pairs => definition (.map p pairs) p ++ pairDefinitions pairs
  | .aliasOf _ => []

def itemDefinitions : List (Node Nat) → List (Nat × Node Nat)
  | [] => []
  | item :: rest => definitions item ++ itemDefinitions rest

def pairDefinitions : List (Node Nat × Node Nat) → List (Nat × Node Nat)
  | [] => []
  | (key, value) :: rest => definitions key ++ definitions value ++ pairDefinitions rest

end

mutual

/-- The number of marks that a document is written with: one for a scalar or an alias, two around
a collection. -/
def size {ν : Type} : Node ν → Nat
  | .scalar _ _ _ => 1
  | .aliasOf _ => 1
  | .list _ items => 2 + itemsSize items
  | .map _ pairs => 2 + pairsSize pairs

def itemsSize {ν : Type} : List (Node ν) → Nat
  | [] => 0
  | item :: rest => size item + itemsSize rest

def pairsSize {ν : Type} : List (Node ν × Node ν) → Nat
  | [] => 0
  | (key, value) :: rest => size key + size value + pairsSize rest

end

end Linking

end Node

/-- A document: its root and what its aliases stand for, the last definition first. -/
structure LinkedDocument where
  root : Node Nat
  targets : List (Nat × Node Nat)

/-- The document of a text. -/
def LinkedDocument.ofText (text : String) : Lexing LinkedDocument := do
  let root ← Node.ofTokens (← Token.ofText text)
  let (root, _) ← (Node.link root).run []
  return ⟨root, root.definitions.reverse⟩

end BulkTransfer.Yaml
