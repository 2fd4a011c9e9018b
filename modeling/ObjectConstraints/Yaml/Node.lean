import ObjectConstraints.Yaml.Lexer

/-!
# YAML documents

The node of a YAML text, with every alias replaced by the node it names. A text holds at most one
document.
-/

namespace ObjectConstraints.Yaml

/-- A node with its tag, if it carries one. -/
inductive Node where
  | scalar (tag : Option (List Char)) (style : ScalarStyle) (text : List Char)
  | sequence (tag : Option (List Char)) (items : List Node)
  | mapping (tag : Option (List Char)) (entries : List (Node × Node))
  /-- An alias inside of the node that it names. It can be skipped but not read. -/
  | recursive
  deriving Inhabited

/-- The scalar that stands for a missing node. -/
def Node.missing : Node := .scalar none .plain []

/-- What is left to read and what has been declared: tag handles with their prefixes, and the nodes
of anchors, newest first. A node that is being read is not known yet. -/
structure Composer where
  tokens : List Token
  handles : List (List Char × List Char)
  anchors : List (List Char × Option Node) := []

namespace Composer

def next (c : Composer) : Composer := { c with tokens := c.tokens.drop 1 }

def at? (c : Composer) (tokens : List Token) : Bool :=
  match c.tokens with
  | token :: _ => tokens.contains token
  | [] => false

/-- Notes the node of the anchor that was declared as the `place`-th. -/
def define (c : Composer) (place : Option Nat) (node : Node) : Composer :=
  match place with
  | none => c
  | some place =>
    let fromEnd := c.anchors.length - 1 - place
    { c with anchors := c.anchors.modify fromEnd fun (name, _) => (name, some node) }

def fullTag (c : Composer) (handle suffix : List Char) : Option (List Char) :=
  if handle.isEmpty then some suffix
  else (c.handles.find? (·.1 == handle)).map fun found => found.2 ++ suffix

/-- The anchor and the tag in front of a node, in either order: the place of the anchor among those
declared, the tag, and whether there was any. -/
def properties (c : Composer) : Option (Option Nat × Option (List Char) × Bool × Composer) :=
  let declare (c : Composer) (name : List Char) : Option Nat × Composer :=
    (some c.anchors.length, { c with anchors := (name, none) :: c.anchors })
  match c.tokens with
  | .anchor name :: .tag handle suffix :: rest => do
    let tag ← c.fullTag handle suffix
    let (place, c) := declare { c with tokens := rest } name
    some (place, some tag, true, c)
  | .tag handle suffix :: .anchor name :: rest => do
    let tag ← c.fullTag handle suffix
    let (place, c) := declare { c with tokens := rest } name
    some (place, some tag, true, c)
  | .anchor name :: rest =>
    let (place, c) := declare { c with tokens := rest } name
    some (place, none, true, c)
  | .tag handle suffix :: rest => do
    let tag ← c.fullTag handle suffix
    some (none, some tag, true, { c with tokens := rest })
  | _ => some (none, none, false, c)

mutual

/-- A node. Block collections can be refused, and a sequence whose dashes are not indented can be
allowed. A scalar whose tag is an exclamation mark alone counts as untagged. -/
def node : Nat → Bool → Bool → Composer → Option (Node × Composer)
  | 0, _, _, _ => none
  | fuel + 1, block, indentless, c =>
    match c.tokens with
    | .alias name :: rest =>
      match c.anchors.find? (·.1 == name) with
      | some (_, found) => some (found.getD .recursive, { c with tokens := rest })
      | none => none
    | _ => do
      let (place, tag, any, c) ← c.properties
      let finish (result : Node × Composer) : Node × Composer :=
        (result.1, result.2.define place result.1)
      match c.tokens with
      | .scalar style text :: rest =>
        let tag := if tag == some ['!'] then none else tag
        some (finish (.scalar tag style text, { c with tokens := rest }))
      | .flowSequenceStart :: rest => do
        let (items, c) ← flowItems fuel true { c with tokens := rest }
        some (finish (.sequence tag items, c))
      | .flowMappingStart :: rest => do
        let (entries, c) ← flowEntries fuel true { c with tokens := rest }
        some (finish (.mapping tag entries, c))
      | token :: rest =>
        if indentless && token == .blockEntry then do
          let (items, c) ← indentlessItems fuel c
          some (finish (.sequence tag items, c))
        else if block && token == .blockSequenceStart then do
          let (items, c) ← blockItems fuel { c with tokens := rest }
          some (finish (.sequence tag items, c))
        else if block && token == .blockMappingStart then do
          let (entries, c) ← blockEntries fuel { c with tokens := rest }
          some (finish (.mapping tag entries, c))
        else if any then some (finish (.scalar tag .plain [], c))
        else none
      | [] => if any then some (finish (.scalar tag .plain [], c)) else none

/-- A node, or the missing node where one of the given tokens follows. -/
def nodeUnless : Nat → Bool → List Token → Composer → Option (Node × Composer)
  | 0, _, _, _ => none
  | fuel + 1, block, stops, c =>
    if c.tokens.isEmpty || c.at? stops then some (.missing, c) else node fuel block block c

def blockItems : Nat → Composer → Option (List Node × Composer)
  | 0, _ => none
  | fuel + 1, c =>
    match c.tokens with
    | .blockEntry :: rest => do
      let c := { c with tokens := rest }
      let (item, c) ←
        if c.at? [.blockEntry, .blockEnd] then some (.missing, c) else node fuel true false c
      let (items, c) ← blockItems fuel c
      some (item :: items, c)
    | .blockEnd :: rest => some ([], { c with tokens := rest })
    | _ => none

/-- The entries of a sequence whose dashes stand in the column of the mapping around it. -/
def indentlessItems : Nat → Composer → Option (List Node × Composer)
  | 0, _ => none
  | fuel + 1, c =>
    match c.tokens with
    | .blockEntry :: rest => do
      let c := { c with tokens := rest }
      let (item, c) ←
        if c.at? [.blockEntry, .key, .value, .blockEnd] then some (.missing, c)
        else node fuel true false c
      let (items, c) ← indentlessItems fuel c
      some (item :: items, c)
    | _ => some ([], c)

def blockEntries : Nat → Composer → Option (List (Node × Node) × Composer)
  | 0, _ => none
  | fuel + 1, c =>
    match c.tokens with
    | .key :: rest => do
      let (key, c) ← nodeUnless fuel true [.key, .value, .blockEnd] { c with tokens := rest }
      let (value, c) ←
        if c.at? [.value] then nodeUnless fuel true [.key, .value, .blockEnd] c.next
        else some (.missing, c)
      let (entries, c) ← blockEntries fuel c
      some ((key, value) :: entries, c)
    | .blockEnd :: rest => some ([], { c with tokens := rest })
    | _ => none

/-- The items of a flow sequence up to its bracket. An item that is a key with a value makes a
mapping of one entry. -/
def flowItems : Nat → Bool → Composer → Option (List Node × Composer)
  | 0, _, _ => none
  | fuel + 1, first, c =>
    if c.at? [.flowSequenceEnd] then some ([], c.next)
    else if !first && !c.at? [.flowEntry] then none
    else
      let c := if first then c else c.next
      if c.at? [.flowSequenceEnd] then some ([], c.next)
      else do
        let (item, c) ← if c.at? [.key] then pair fuel c.next else node fuel false false c
        let (items, c) ← flowItems fuel false c
        some (item :: items, c)

/-- The mapping of one entry inside of a flow sequence. A missing key swallows the token after
it. -/
def pair : Nat → Composer → Option (Node × Composer)
  | 0, _ => none
  | fuel + 1, c => do
    let (key, c) ←
      if c.at? [.value, .flowEntry, .flowSequenceEnd] then some (.missing, c.next)
      else node fuel false false c
    let (value, c) ←
      if c.at? [.value] then nodeUnless fuel false [.flowEntry, .flowSequenceEnd] c.next
      else some (.missing, c)
    some (.mapping none [(key, value)], c)

/-- The entries of a flow mapping up to its brace. A key without a mark has no value. -/
def flowEntries : Nat → Bool → Composer → Option (List (Node × Node) × Composer)
  | 0, _, _ => none
  | fuel + 1, first, c =>
    if c.at? [.flowMappingEnd] then some ([], c.next)
    else if !first && !c.at? [.flowEntry] then none
    else
      let c := if first then c else c.next
      if c.at? [.flowMappingEnd] then some ([], c.next)
      else do
        let (entry, c) ←
          if c.at? [.key] then do
            let (key, c) ← nodeUnless fuel false [.value, .flowEntry, .flowMappingEnd] c.next
            let (value, c) ←
              if c.at? [.value] then nodeUnless fuel false [.flowEntry, .flowMappingEnd] c.next
              else some (.missing, c)
            some ((key, value), c)
          else do
            let (key, c) ← node fuel false false c
            some ((key, .missing), c)
        let (entries, c) ← flowEntries fuel false c
        some (entry :: entries, c)

end

def defaultHandles : List (List Char × List Char) :=
  [(['!'], ['!']), (['!', '!'], "tag:yaml.org,2002:".toList)]

/-- The directives in front of a document: at most one version, which has to be 1.1 or 1.2, and at
most one prefix for a handle. Answers the handles and whether there was a directive. -/
def directives : List Token → Bool → List (List Char × List Char) →
    Option (List (List Char × List Char) × List Token)
  | .versionDirective major minor :: rest, versioned, handles =>
    if versioned || major != 1 || (minor != 1 && minor != 2) then none
    else directives rest true handles
  | .tagDirective handle tagPrefix :: rest, versioned, handles =>
    if handles.any (·.1 == handle) then none
    else directives rest versioned ((handle, tagPrefix) :: handles)
  | rest, _, handles => some (handles ++ defaultHandles, rest)

/-- Whether a document's content is missing before the given tokens. -/
def isMissing (tokens : List Token) : Bool :=
  match tokens with
  | [] | .documentStart :: _ | .documentEnd :: _ => true
  | .versionDirective .. :: _ | .tagDirective .. :: _ => true
  | _ => false

/-- The content of a document, whose tokens end the text but for marks of its end. -/
def content (handles : List (List Char × List Char)) (tokens : List Token) (explicit : Bool) :
    Option Node := do
  let c : Composer := { tokens := tokens, handles := handles }
  let (root, c) ←
    if explicit && isMissing tokens then some (.missing, c)
    else node (6 * tokens.length + 6) true false c
  if (c.tokens.dropWhile (· == .documentEnd)).isEmpty then some root else none

end Composer

/-- The document of a text: its node, or nothing inside where the text has no content at all. -/
def document? (text : String) : Option (Option Node) := do
  let tokens ← tokens? text
  match tokens with
  | [] => some none
  | first :: _ => do
    let (handles, rest) ← Composer.directives tokens false []
    match rest with
    | .documentStart :: rest => (Composer.content handles rest true).map some
    | _ =>
      match first with
      | .versionDirective .. | .tagDirective .. => none
      | _ => (Composer.content handles rest false).map some

end ObjectConstraints.Yaml
