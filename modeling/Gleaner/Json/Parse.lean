import Gleaner.Json.Lex
import Gleaner.Text.Utf8

/-
  Reading JSON texts: the tokens drive a machine with a stack
  of the arrays and objects that are still open.

  Key definitions include:
    * `Json.Frame`
    * `Json.Expect`
    * `Json.State`
    * `Json.step`
    * `Json.run`
    * `Json.parse?`
    * `Json.parseBytes?`
-/

namespace Gleaner

namespace Json

------------------------------------------------------------
-- The Machine
------------------------------------------------------------

/-
  An open array with its items, or an open object with its
  fields, the last one first, and the name of the next.
-/
inductive Frame
  | array (items : List Json)
  | object (fields : List (String × Json)) (name : String)
deriving Repr

/- What may come next. -/
inductive Expect
  | value
  | valueOrClose
  | name
  | nameOrClose
  | colon
  | commaOrClose
deriving DecidableEq, Repr

/- The number of arrays and objects that may be open at once. -/
def maxDepth : Nat := 127

/- Give a finished value to the innermost open frame. -/
def Frame.add (v : Json) : Frame → Frame
  | .array items => .array (v :: items)
  | .object fields name => .object ((name, v) :: fields) ""

/- The value of a frame that is closed. -/
def Frame.close : Frame → Json
  | .array items => .array items.reverse
  | .object fields _ => ofFields fields.reverse

/- The closing bracket fits the frame. -/
def Frame.closedBy : Frame → Token → Bool
  | .array _, .closeArray => true
  | .object .., .closeObject => true
  | _, _ => false

/- Where the machine stands: amid open frames, or at the end. -/
inductive State
  | open (expect : Expect) (stack : List Frame)
  | done (v : Json)
deriving Repr

/- Give a finished value to the frames around it. -/
def finish (v : Json) : List Frame → State
  | [] => .done v
  | frame :: stack => .open .commaOrClose (frame.add v :: stack)

/- Open one more frame, unless there are too many. -/
def enter (expect : Expect) (frame : Frame) (stack : List Frame) :
    Option State :=
  if stack.length < maxDepth then some (.open expect (frame :: stack))
  else none

/- A token where a value may start. -/
def startValue (stack : List Frame) : Token → Option State
  | .value v => some (finish v stack)
  | .openArray => enter .valueOrClose (.array []) stack
  | .openObject => enter .nameOrClose (.object [] "") stack
  | _ => none

/- A token where the name of a field may stand. -/
def startField : List Frame → Token → Option State
  | .object fields _ :: stack, .value (.text s) =>
      some (.open .colon (.object fields s :: stack))
  | _, _ => none

/- A token where the innermost frame has to be closed. -/
def leave (token : Token) : List Frame → Option State
  | [] => none
  | frame :: stack =>
      if frame.closedBy token then some (finish frame.close stack)
      else none

/- A token behind an item or a field. -/
def proceed (stack : List Frame) : Token → Option State
  | .comma =>
      match stack with
      | .array .. :: _ => some (.open .value stack)
      | .object .. :: _ => some (.open .name stack)
      | [] => none
  | token => leave token stack

/- One token. -/
def step (expect : Expect) (stack : List Frame) (token : Token) :
    Option State :=
  match expect with
  | .value => startValue stack token
  | .valueOrClose =>
      match token with
      | .closeArray => leave token stack
      | _ => startValue stack token
  | .name => startField stack token
  | .nameOrClose =>
      match token with
      | .closeObject => leave token stack
      | _ => startField stack token
  | .colon =>
      match token with
      | .colon => some (.open .value stack)
      | _ => none
  | .commaOrClose => proceed stack token

/- All tokens.  Nothing may follow a value outside all frames. -/
def run : State → List Token → Option State
  | state, [] => some state
  | .done _, _ :: _ => none
  | .open expect stack, token :: rest =>
      match step expect stack token with
      | some state => run state rest
      | none => none

------------------------------------------------------------
-- Texts
------------------------------------------------------------

/- The value that a text describes. -/
def parseChars? (cs : List Char) : Option Json :=
  match (lex cs).bind (run (.open .value [])) with
  | some (.done v) => some v
  | _ => none

/- The value that a text describes. -/
def parse? (s : String) : Option Json :=
  parseChars? s.toList

/- The value that bytes describe, which have to be UTF-8. -/
def parseBytes? (bytes : List UInt8) : Option Json :=
  (Utf8.decode? bytes).bind parseChars?

end Json

end Gleaner
