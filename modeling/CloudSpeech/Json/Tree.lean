import CloudSpeech.Json.Token
/-!
# JSON trees

A JSON text as a tree that is complete up to the first fault.  What stands before the fault keeps
its place, so that a reader that looks for certain values meets whichever comes first, an
unexpected value or the fault.
-/

namespace CloudSpeech.Json

/-- A JSON text as far as it can be cut into values. -/
inductive Tree where
  | null
  | bool (value : Bool)
  | number (text : NumberText)
  | string (text : Except Flaw String)
  /-- The items, and the fault that stands where a comma or the end should be. -/
  | array (items : List Tree) (ending : Option Fault)
  /-- The members, and the fault that stands where a comma, a key or the end should be. -/
  | object (members : List (Except Flaw String × Tree)) (ending : Option Fault)
  /-- A fault in the place of a value. -/
  | fault (fault : Fault)

/-- A text as a tree, and whether anything follows it. -/
structure Document where
  root : Tree
  trailing : Bool

/-- An array or object that is still open, its parts last first. -/
inductive Frame where
  | array (items : List Tree)
  | object (members : List (Except Flaw String × Tree))
  /-- An object whose last key has no value yet. -/
  | member (members : List (Except Flaw String × Tree)) (key : Except Flaw String)

/-- What may come next inside the innermost open frame. -/
inductive Expectation where
  | value
  | itemOrEnd
  | keyOrEnd
  | key
  | colon
  | commaOrEnd
  deriving DecidableEq, Repr

namespace Tree

/-- Puts a finished tree into the frames around it and closes them all; nothing follows it. -/
def closeAll (tree : Tree) : List Frame → Tree
  | [] => tree
  | .array items :: outer => closeAll (.array (tree :: items).reverse none) outer
  | .object members :: outer => closeAll (.object members.reverse none) outer
  | .member members key :: outer => closeAll (.object ((key, tree) :: members).reverse none) outer

/-- Ends the text with a fault where something other than a value was due. -/
def closeWith (fault : Fault) : List Frame → Tree
  | [] => .fault fault
  | .array items :: outer => closeAll (.array items.reverse (some fault)) outer
  | .object members :: outer => closeAll (.object members.reverse (some fault)) outer
  | .member members key :: outer =>
      closeAll (.object ((key, .fault fault) :: members).reverse none) outer

def keyFault : Token → Fault
  | .brokenString found => found
  | _ => .same .malformed

def valueFault : Token → Fault
  | .brokenString found => found
  | .broken found => found
  | _ => .same .malformed

end Tree

/-- A text that has been read up to some token. -/
inductive Progress where
  /-- More is to come inside the open arrays and objects, the innermost first. -/
  | within (due : Expectation) (frames : List Frame)
  /-- Nothing more can come: the tree is finished or broken off. -/
  | complete (document : Document)

namespace Progress

def start : Progress := within .value []

/-- Goes on after a finished value. -/
def finish (tree : Tree) : List Frame → Progress
  | [] => complete ⟨tree, false⟩
  | .array items :: outer => within .commaOrEnd (.array (tree :: items) :: outer)
  | .member members key :: outer => within .commaOrEnd (.object ((key, tree) :: members) :: outer)
  | .object members :: outer => within .commaOrEnd (.object members :: outer)

/-- Breaks off where something other than a value was due. -/
def breakOff (found : Fault) (frames : List Frame) : Progress :=
  complete ⟨Tree.closeWith found frames, false⟩

def takeValue (frames : List Frame) : Token → Progress
  | .null => finish .null frames
  | .bool value => finish (.bool value) frames
  | .number text => finish (.number text) frames
  | .string text => finish (.string text) frames
  | .openArray => within .itemOrEnd (.array [] :: frames)
  | .openObject => within .keyOrEnd (.object [] :: frames)
  | token => complete ⟨Tree.closeAll (.fault (Tree.valueFault token)) frames, false⟩

def takeKey (frames : List Frame) (token : Token) : Progress :=
  match token, frames with
  | .string key, .object members :: outer => within .colon (.member members key :: outer)
  | token, frames => breakOff (Tree.keyFault token) frames

def takeEnd (frames : List Frame) (token : Token) : Progress :=
  match token, frames with
  | .closeArray, .array items :: outer => finish (.array items.reverse none) outer
  | .closeObject, .object members :: outer => finish (.object members.reverse none) outer
  | _, frames => breakOff (.same .malformed) frames

/-- Goes on with a token after a finished part of an array or object. -/
def takeSeparator (frames : List Frame) (token : Token) : Progress :=
  match token, frames with
  | .comma, .array items :: outer => within .value (.array items :: outer)
  | .comma, .object members :: outer => within .key (.object members :: outer)
  | token, frames => takeEnd frames token

def step : Progress → Token → Progress
  | complete document, _ => complete { document with trailing := true }
  | within .value frames, token => takeValue frames token
  | within .key frames, token => takeKey frames token
  | within .commaOrEnd frames, token => takeSeparator frames token
  | within .colon frames, token =>
      match token with
      | .colon => within .value frames
      | _ => breakOff (.same .malformed) frames
  | within .itemOrEnd frames, token =>
      match token with
      | .closeArray => takeEnd frames .closeArray
      | token => takeValue frames token
  | within .keyOrEnd frames, token =>
      match token with
      | .closeObject => takeEnd frames .closeObject
      | token => takeKey frames token

def toDocument : Progress → Document
  | complete document => document
  | within .value frames => ⟨Tree.closeAll (.fault (.same .truncated)) frames, false⟩
  | within _ frames => ⟨Tree.closeWith (.same .truncated) frames, false⟩

end Progress

namespace Tree

def ofText (text : String) : Document :=
  ((tokens text.toList).foldl Progress.step Progress.start).toDocument

def maxDepth : Nat := 127

/-- The last member of each key. -/
def lastOfEach (members : List (String × Value)) : List (String × Value) :=
  members.foldr (fun member rest => if rest.any (·.1 = member.1) then rest else member :: rest) []

mutual

/-- The value of a tree, if it has no fault and is not nested too deep. -/
def value? (depth : Nat) : Tree → Option Value
  | null => some .null
  | bool value => some (.bool value)
  | number text => text.value.toOption.map .number
  | string text => text.toOption.map .string
  | array items ending =>
      if depth = 0 ∨ ending.isSome then none else (items? (depth - 1) items).map .array
  | object members ending =>
      if depth = 0 ∨ ending.isSome then none
      else (members? (depth - 1) members).map fun members => .object (lastOfEach members)
  | fault _ => none

def items? (depth : Nat) : List Tree → Option (List Value)
  | [] => some []
  | item :: rest => do
      let item ← value? depth item
      let rest ← items? depth rest
      pure (item :: rest)

def members? (depth : Nat) : List (Except Flaw String × Tree) → Option (List (String × Value))
  | [] => some []
  | (key, value) :: rest => do
      let key ← key.toOption
      let value ← value? depth value
      let rest ← members? depth rest
      pure ((key, value) :: rest)

end

end Tree

def Value.ofText? (text : String) : Option Value :=
  let document := Tree.ofText text
  if document.trailing then none else document.root.value? Tree.maxDepth

end CloudSpeech.Json
