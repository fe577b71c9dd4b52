import TypeCatalog.Yaml.Node
import TypeCatalog.Yaml.Tokens

/-!
# YAML documents

The nodes that the tokens of a text spell. Where the tokens end before a node does, or spell
nothing, the node is cut there; what stands before is kept.
-/

namespace TypeCatalog.Yaml

/-- What is still to be read of a document. -/
structure Unread where
  tokens : List Token
  /-- The names of anchors so far, with the number of the node that each one stands for. -/
  anchors : List (String × Nat) := []

/-- A part of a document, and what follows it unless the part is cut. -/
abbrev Part (α : Type) := α × Option Unread

/-- Nothing can be read here. -/
def Part.nothing : Part Node := (.cut .malformed, none)

namespace Unread

/-- What is left to read before some tokens. -/
def skipTo (u : Unread) (tokens : List Token) : Unread := { u with tokens }

/-- Gives a name to the next node. -/
def nameAnchor (u : Unread) (name : String) : Nat × Unread :=
  let number := u.anchors.length
  (number, { u with anchors := (name, number) :: u.anchors.filter fun a => a.1 != name })

/-- The tag that is written with a handle, where the handles have these meanings. -/
def fullTag? (handles : List (String × TagBytes)) (t : WrittenTag) : Option TagBytes :=
  if t.handle.isEmpty then some t.suffix
  else (handles.lookup t.handle).map fun meaning => meaning ++ t.suffix

/-- An anchor and a tag before a node, in any order. -/
def written : List Token → Option String × Option WrittenTag × List Token
  | ⟨_, .anchor a⟩ :: ⟨_, .tag t⟩ :: rest => (some a, some t, rest)
  | ⟨_, .tag t⟩ :: ⟨_, .anchor a⟩ :: rest => (some a, some t, rest)
  | ⟨_, .anchor a⟩ :: rest => (some a, none, rest)
  | ⟨_, .tag t⟩ :: rest => (none, some t, rest)
  | rest => (none, none, rest)

/-- The properties of the next node. -/
def properties? (handles : List (String × TagBytes)) (u : Unread) :
    Option (Properties × Unread) := do
  let first ← u.tokens.head?
  let (name, tag, rest) := written u.tokens
  let tag ← match tag with
    | some t => (fullTag? handles t).map some
    | none => some none
  let u := u.skipTo rest
  match name with
  | some name =>
    let (number, u) := u.nameAnchor name
    return (⟨first.place, some number, tag⟩, u)
  | none => return (⟨first.place, none, tag⟩, u)

end Unread

/-! ### Nodes -/

/-- Where a node may stand. -/
inductive Where where
  | flow
  | block
  /-- In a block, where a list need not be indented. -/
  | unindented
  deriving DecidableEq, Repr

/-- Whether a block collection may stand there. -/
def Where.isBlock (w : Where) : Bool := w != .flow

/-- Goes on behind a part, if it is not cut. -/
def Part.andThen {α β : Type} (first : Part α) (cut : α → β) (next : α → Unread → Part β) :
    Part β :=
  match first with
  | (a, none) => (cut a, none)
  | (a, some u) => next a u

/-- The elements of a collection that start with a part. -/
def Part.cons {α : Type} (first : Part α) (next : Unread → Part (List α)) : Part (List α) :=
  first.andThen (fun a => [a]) fun a u =>
    let (rest, u) := next u
    (a :: rest, u)

/-- Reads a key and then its value. -/
def Part.entry (key : Part Node) (value : Unread → Part Node) : Part (Node × Node) :=
  key.andThen (fun k => (k, k)) fun k u =>
    let (v, u) := value u
    ((k, v), u)

/-- The tokens before which the node of an entry of a block dictionary is absent. -/
def endsBlockEntry : TokenKind → Bool
  | .key | .value | .blockEnd => true
  | _ => false

/-- The tokens before which an element of an unindented list is absent. -/
def endsUnindentedItem : TokenKind → Bool
  | .blockEntry | .key | .value | .blockEnd => true
  | _ => false

/-- The tokens before which an element of a block list is absent. -/
def endsBlockItem : TokenKind → Bool
  | .blockEntry | .blockEnd => true
  | _ => false

/-- The tokens before which a node in braces is absent. -/
def endsFlowEntry : TokenKind → Bool
  | .value | .flowEntry | .flowDictEnd => true
  | _ => false

/-- The tokens before which the value of a pair in square brackets is absent. -/
def endsPair : TokenKind → Bool
  | .value | .flowEntry | .flowListEnd => true
  | _ => false

/-- The tokens between two elements in brackets: a comma, unless the element is the first one. -/
def afterComma? (isFirst : Bool) (tokens : List Token) : Option (List Token) :=
  if isFirst then some tokens
  else match tokens with
    | ⟨_, .flowEntry⟩ :: rest => some rest
    | _ => none

section
/- The meanings of the handles of tags. -/
variable (handles : List (String × TagBytes))

mutual

/-- Reads a node; `fuel` bounds the parts that are read. -/
def node (w : Where) (fuel : Nat) (u : Unread) : Part Node :=
  match fuel, u.tokens with
  | 0, _ => .nothing
  | _ + 1, ⟨place, .alias name⟩ :: rest =>
    match u.anchors.lookup name with
    | some number => (.alias place number, some (u.skipTo rest))
    | none => (.cut (.unknownAnchor place), none)
  | fuel + 1, _ =>
    match u.properties? handles with
    | none => .nothing
    | some (p, u) =>
      match u.tokens with
      | ⟨_, .scalar isPlain text⟩ :: rest => (.scalar p isPlain text, some (u.skipTo rest))
      | ⟨_, .flowListStart⟩ :: rest =>
        let (items, u) := flowItems true fuel (u.skipTo rest)
        (.list p items, u)
      | ⟨_, .flowDictStart⟩ :: rest =>
        let (entries, u) := flowEntries true fuel (u.skipTo rest)
        (.dict p entries, u)
      | [] => .nothing
      | t :: rest =>
        if w == .unindented && t.kind == .blockEntry then
          let (items, u) := unindentedItems fuel u
          (.list p items, u)
        else if w.isBlock && t.kind == .blockListStart then
          let (items, u) := blockItems fuel (u.skipTo rest)
          (.list p items, u)
        else if w.isBlock && t.kind == .blockDictStart then
          let (entries, u) := blockEntries fuel (u.skipTo rest)
          (.dict p entries, u)
        else if p.anchor.isSome || p.tag.isSome then (.absent p, some u)
        else .nothing

/-- Reads a node that is absent before some tokens. -/
def nodeUnless (ends : TokenKind → Bool) (w : Where) (fuel : Nat) (u : Unread) : Part Node :=
  match fuel, u.tokens with
  | fuel + 1, t :: _ =>
    if ends t.kind then (.absent ⟨t.place, none, none⟩, some u) else node w fuel u
  | _, _ => .nothing

/-- Reads the value of a key, if there is one. -/
def valueUnless (ends : TokenKind → Bool) (w : Where) (fuel : Nat) (u : Unread) : Part Node :=
  match fuel, u.tokens with
  | fuel + 1, ⟨_, .value⟩ :: rest => nodeUnless ends w fuel (u.skipTo rest)
  | _ + 1, t :: _ => (.absent ⟨t.place, none, none⟩, some u)
  | _, _ => .nothing

/-- Reads the elements of a block list. -/
def blockItems (fuel : Nat) (u : Unread) : Part (List Node) :=
  match fuel, u.tokens with
  | fuel + 1, ⟨_, .blockEntry⟩ :: rest =>
    (nodeUnless endsBlockItem .block fuel (u.skipTo rest)).cons (blockItems fuel)
  | _ + 1, ⟨_, .blockEnd⟩ :: rest => ([], some (u.skipTo rest))
  | _, _ => ([.cut .malformed], none)

/-- Reads the elements of a list that is not indented. -/
def unindentedItems (fuel : Nat) (u : Unread) : Part (List Node) :=
  match fuel, u.tokens with
  | fuel + 1, ⟨_, .blockEntry⟩ :: rest =>
    (nodeUnless endsUnindentedItem .block fuel (u.skipTo rest)).cons (unindentedItems fuel)
  | _ + 1, _ :: _ => ([], some u)
  | _, _ => ([.cut .malformed], none)

/-- Reads the entries of a block dictionary. -/
def blockEntries (fuel : Nat) (u : Unread) : Part (List (Node × Node)) :=
  match fuel, u.tokens with
  | fuel + 1, ⟨_, .key⟩ :: rest =>
    ((nodeUnless endsBlockEntry .unindented fuel (u.skipTo rest)).entry
      (valueUnless endsBlockEntry .unindented fuel)).cons (blockEntries fuel)
  | _ + 1, ⟨_, .blockEnd⟩ :: rest => ([], some (u.skipTo rest))
  | _, _ => ([(.cut .malformed, .cut .malformed)], none)

/-- Reads the elements in square brackets. -/
def flowItems (isFirst : Bool) (fuel : Nat) (u : Unread) : Part (List Node) :=
  match fuel, u.tokens with
  | _ + 1, ⟨_, .flowListEnd⟩ :: rest => ([], some (u.skipTo rest))
  | fuel + 1, tokens =>
    match afterComma? isFirst tokens with
    | some (⟨_, .flowListEnd⟩ :: rest) => ([], some (u.skipTo rest))
    | some (⟨place, .key⟩ :: rest) =>
      ((pairKey fuel (u.skipTo rest)).entry (valueUnless endsPair .flow fuel)).andThen
        (fun e => [.dict ⟨place, none, none⟩ [e]])
        fun e u => Part.cons (.dict ⟨place, none, none⟩ [e], some u) (flowItems false fuel)
    | some rest => (node .flow fuel (u.skipTo rest)).cons (flowItems false fuel)
    | none => ([.cut .malformed], none)
  | _, _ => ([.cut .malformed], none)

/-- Reads the key of a pair in square brackets; where it is absent the next sign is dropped. -/
def pairKey (fuel : Nat) (u : Unread) : Part Node :=
  match fuel, u.tokens with
  | fuel + 1, t :: rest =>
    if endsPair t.kind then (.absent ⟨t.place, none, none⟩, some (u.skipTo rest))
    else node .flow fuel u
  | _, _ => .nothing

/-- Reads the entries in braces. -/
def flowEntries (isFirst : Bool) (fuel : Nat) (u : Unread) : Part (List (Node × Node)) :=
  match fuel, u.tokens with
  | _ + 1, ⟨_, .flowDictEnd⟩ :: rest => ([], some (u.skipTo rest))
  | fuel + 1, tokens =>
    match afterComma? isFirst tokens with
    | some (⟨_, .flowDictEnd⟩ :: rest) => ([], some (u.skipTo rest))
    | some (⟨_, .key⟩ :: rest) =>
      ((nodeUnless endsFlowEntry .flow fuel (u.skipTo rest)).entry
        (valueUnless endsFlowEntry .flow fuel)).cons (flowEntries false fuel)
    | some rest =>
      ((node .flow fuel (u.skipTo rest)).entry (absentValue fuel)).cons (flowEntries false fuel)
    | none => ([(.cut .malformed, .cut .malformed)], none)
  | _, _ => ([(.cut .malformed, .cut .malformed)], none)

/-- The value of a key that has none. -/
def absentValue (fuel : Nat) (u : Unread) : Part Node :=
  match fuel, u.tokens with
  | _ + 1, t :: _ => (.absent ⟨t.place, none, none⟩, some u)
  | _, _ => .nothing

end
end

/-! ### Documents -/

/-- A text as a document. -/
structure Document where
  root : Node
  /-- What is wrong behind the root. -/
  ending : Option Fault

namespace Document

/-- The handles that always have a meaning. -/
def defaultHandles : List (String × TagBytes) :=
  [("!", TagBytes.ofText "!"), ("!!", TagBytes.ofText "tag:yaml.org,2002:")]

/-- The meanings of handles that directives give; no handle is told twice, and the version is told
once at most. -/
def handles? (versionTold : Bool) (handles : List (String × TagBytes)) :
    List Directive → Option (List (String × TagBytes))
  | [] => some (handles ++ defaultHandles)
  | .version major minor :: rest =>
    if versionTold || major != 1 || (minor != 1 && minor != 2) then none
    else handles? true handles rest
  | .handle handle meaning :: rest =>
    if (handles.lookup handle).isSome then none
    else handles? versionTold ((handle, meaning) :: handles) rest

/-- The directives before a document, and the tokens behind them. -/
def directives : List Token → List Directive × List Token
  | ⟨_, .directive d⟩ :: rest =>
    let (ds, rest) := directives rest
    (d :: ds, rest)
  | rest => ([], rest)

/-- Whether the content of a document is absent before a token. -/
def endsContent : TokenKind → Bool
  | .directive _ | .documentStart | .documentEnd | .textEnd => true
  | _ => false

/-- What is wrong behind the root of a document, before these tokens. -/
def ending? : List Token → Option Fault
  | [] => some .malformed
  | t :: rest =>
    match (t :: rest).dropWhile fun t => t.kind == .documentEnd with
    | [⟨_, .textEnd⟩] => none
    | _ => some .secondDocument

/-- A document with a root. -/
def ofRoot : Part Node → Document
  | (root, none) => ⟨root, none⟩
  | (root, some u) => ⟨root, ending? u.tokens⟩

/-- The first document that tokens spell. A text without any is a document without content. -/
def ofTokens (tokens : List Token) : Document :=
  let fuel := 4 * tokens.length + 4
  match directives tokens with
  | ([], [⟨place, .textEnd⟩]) => ⟨.absent ⟨place, none, none⟩, none⟩
  | (ds, ⟨_, .documentStart⟩ :: rest) =>
    match handles? false [] ds with
    | none => ⟨.cut .malformed, none⟩
    | some handles =>
      ofRoot (match rest with
        | [] => .nothing
        | t :: _ =>
          if endsContent t.kind then (.absent ⟨t.place, none, none⟩, some { tokens := rest })
          else node handles .block fuel { tokens := rest })
  | ([], tokens) => ofRoot (node defaultHandles .block fuel { tokens })
  | (_, _) => ⟨.cut .malformed, none⟩

/-- The first document of a text. -/
def ofText (text : String) : Document := ofTokens (Yaml.tokens text.toList)

end Document
end TypeCatalog.Yaml
