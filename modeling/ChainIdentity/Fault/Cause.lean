import ChainIdentity.Journal
import ChainIdentity.Text.Blank

/-!
# Causes

Seen from outside, an error is a text, perhaps a trace id, and perhaps another error behind it.
That is all an error keeps of the one that caused it, and `Cause` is that view.

Two things are done with a cause.  A new error takes over the trace id it finds on the way
down, looking at the first four errors only (`Cause.inherited?`).  And the whole way down is
written to the journal as one text (`Cause.chain`), every message freed of a web page that a
gateway may have put into it.
-/

namespace ChainIdentity

open Text

/-- An error as the errors around it see it. -/
inductive Cause where
  /-- An error with nothing behind it. -/
  | last (message : String) (trace : Option TraceId)
  /-- An error with another one behind it. -/
  | before (message : String) (trace : Option TraceId) (source : Cause)
deriving DecidableEq, Repr

namespace Cause

/-- An error with another one behind it, if there is one. -/
def ofSource (message : String) (trace : Option TraceId) : Option Cause → Cause
  | none => last message trace
  | some source => before message trace source

/-- An error of another library, which has no trace id of its own. -/
def foreign (message : String) (source : Option Cause) : Cause :=
  ofSource message none source

/-- The text of the error. -/
def message : Cause → String
  | last message _ => message
  | before message _ _ => message

/-- The error's own trace id. -/
def trace? : Cause → Option TraceId
  | last _ trace => trace
  | before _ trace _ => trace

/-- The error behind it. -/
def source? : Cause → Option Cause
  | last _ _ => none
  | before _ _ source => some source

/-- The texts on the whole way down. -/
def messages : Cause → List String
  | last message _ => [message]
  | before message _ source => message :: source.messages

/-- The first trace id among the first `count` errors on the way down. -/
def traceWithin : Nat → Cause → Option TraceId
  | 0, _ => none
  | _ + 1, last _ trace => trace
  | _ + 1, before _ (some trace) _ => some trace
  | count + 1, before _ none source => source.traceWithin count

/-- How many errors are searched for a trace id: the cause itself and three behind it. -/
def searchDepth : Nat := 4

/-- The trace id that an error around this one takes over. -/
def inherited? (cause : Cause) : Option TraceId :=
  cause.traceWithin searchDepth

end Cause

/-! ## Texts without web pages -/

namespace Page

/-- Whether a text starts with the given characters. -/
def startsWith : List Char → List Char → Bool
  | [], _ => true
  | _ :: _, [] => false
  | p :: pattern, c :: cs => p == c && startsWith pattern cs

/-- Whether the given characters stand somewhere in a text. -/
def contains (pattern : List Char) : List Char → Bool
  | [] => pattern.isEmpty
  | c :: cs => startsWith pattern (c :: cs) || contains pattern cs

/-- The tags that give a web page away. -/
def tags : List (List Char) :=
  ["<html>".toList, "<head>".toList, "<body>".toList]

/-- Whether a text holds one of the tags. -/
def isPage (cs : List Char) : Bool :=
  tags.any fun tag => contains tag cs

/-- The text in front of a web page without the blanks around it; a text that holds no page is
left alone. -/
def remove (cs : List Char) : List Char :=
  if isPage cs then trim (cs.takeWhile (· != '<')) else cs

/-- `remove` on text. -/
def removeText (s : String) : String :=
  String.ofList (remove s.toList)

end Page

/-- The whole way down as one text. -/
def Cause.chain : Cause → String
  | last message _ => Page.removeText message
  | before message _ source => Page.removeText message ++ "\n\tCaused by: " ++ source.chain

end ChainIdentity
