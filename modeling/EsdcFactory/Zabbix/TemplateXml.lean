import Mathlib.Data.Char
import Mathlib.Data.List.Basic
import Mathlib.Data.List.Lex
import Mathlib.Data.List.Sort

/-!
# Exported templates

The module `zabbix_template` exports a template as XML that people keep under version
control.  It sets the blank texts of the document that the server returns so that each
element stands in a line of its own.
-/

namespace EsdcFactory
namespace Zabbix
namespace TemplateXml

/-!
## Documents
-/

/--
An element of `ElementTree`: a text stands in front of its children, a tail behind the
element.  A text that is `None` is empty.
-/
inductive Elem where
  | node (tag : List Char) (attrib : List (List Char × List Char)) (text tail : List Char)
      (children : List Elem)

def Elem.children : Elem -> List Elem
  | .node _ _ _ _ children => children

def Elem.tail : Elem -> List Char
  | .node _ _ _ tail _ => tail

def Elem.withTail (tail : List Char) : Elem -> Elem
  | .node tag attrib text _ children => .node tag attrib text tail children

/-- `str.isspace` -/
def isSpace (c : Char) : Bool :=
  let n := c.toNat
  (9 ≤ n && n ≤ 13) || (28 ≤ n && n ≤ 32) || n = 0x85 || n = 0xa0 || n = 0x1680 ||
    (0x2000 ≤ n && n ≤ 0x200a) || n = 0x2028 || n = 0x2029 || n = 0x202f || n = 0x205f ||
    n = 0x3000

/-- `not s or not s.strip()` -/
def isBlank (s : List Char) : Bool := s.all isSpace

/-!
## Indentation
-/

def spaces (level : Nat) : List Char := List.replicate (2 * level) ' '

/-- `"\n" + level * "  "` -/
def lineStart (level : Nat) : List Char := '\n' :: spaces level

def setBlank (s new : List Char) : List Char := if isBlank s then new else s

def Elem.setTail (new : List Char) (e : Elem) : Elem := e.withTail (setBlank e.tail new)

/-- The tail of the last of some elements is set. -/
def setLastTail (new : List Char) : List Elem -> List Elem
  | [] => []
  | [e] => [e.setTail new]
  | e :: rest => e :: setLastTail new rest

mutual

/--
`indent`.  Behind the loop over the children, the variable `elem` is the last child, so
that the tail which is set there is the one of the last child.
-/
def indent (level : Nat) : Elem -> Elem
  | .node tag attrib text tail children =>
      if children.isEmpty then
        .node tag attrib text (if level = 0 then tail else setBlank tail (lineStart level)) []
      else
        .node tag attrib (setBlank text (lineStart level ++ [' ', ' ']))
          (setBlank tail (lineStart level))
          (setLastTail (lineStart level) (indentAll (level + 1) children))

def indentAll (level : Nat) : List Elem -> List Elem
  | [] => []
  | e :: rest => indent level e :: indentAll level rest

end

/-!
## Texts of documents
-/

/-- `_escape_cdata`, in the encoding `us-ascii` -/
def escapeChar (c : Char) : List Char :=
  if c = '&' then "&amp;".toList
  else if c = '<' then "&lt;".toList
  else if c = '>' then "&gt;".toList
  else if c.toNat < 128 then [c]
  else "&#".toList ++ Nat.toDigits 10 c.toNat ++ [';']

def escapeCdata (s : List Char) : List Char := s.flatMap escapeChar

/-- `_escape_attrib` -/
def escapeAttrib (s : List Char) : List Char :=
  s.flatMap fun c =>
    if c = '"' then "&quot;".toList else if c = '\n' then "&#10;".toList else escapeChar c

/-- The name and the sorted attributes of an element. -/
def startText (tag : List Char) (attrib : List (List Char × List Char)) : List Char :=
  tag ++ (attrib.mergeSort fun a b => a.1 ≤ b.1).flatMap fun pair =>
    ' ' :: (pair.1 ++ ('=' :: '"' :: (escapeAttrib pair.2 ++ ['"'])))

mutual

/-- `tostring` -/
def toText : Elem -> List Char
  | .node tag attrib text tail children =>
      '<' :: startText tag attrib ++
        (if text.isEmpty && children.isEmpty then " />".toList
          else '>' :: escapeCdata text ++ toTextAll children ++ "</".toList ++ tag ++ ['>']) ++
        escapeCdata tail

def toTextAll : List Elem -> List Char
  | [] => []
  | e :: rest => toText e ++ toTextAll rest

end

mutual

/-- A document without its blank texts. -/
def content : Elem -> Elem
  | .node tag attrib text tail children =>
      .node tag attrib (if children.isEmpty then text else setBlank text []) (setBlank tail [])
        (contentAll children)

def contentAll : List Elem -> List Elem
  | [] => []
  | e :: rest => content e :: contentAll rest

end

mutual

/-- The document line by line: each element in a line, or from one line to another. -/
def lines (level : Nat) : Elem -> List (List Char)
  | .node tag attrib text _ children =>
      if children.isEmpty then
        [spaces level ++ '<' :: startText tag attrib ++
          if text.isEmpty then " />".toList
          else '>' :: escapeCdata text ++ "</".toList ++ tag ++ ['>']]
      else
        (spaces level ++ '<' :: startText tag attrib ++ ['>']) ::
          (linesAll (level + 1) children ++ [spaces level ++ "</".toList ++ tag ++ ['>']])

def linesAll (level : Nat) : List Elem -> List (List Char)
  | [] => []
  | e :: rest => lines level e ++ linesAll level rest

end

mutual

/-- Texts stand only in elements without children. -/
def IsData : Elem -> Prop
  | .node _ _ text tail children =>
      (children ≠ [] -> isBlank text = true) ∧ isBlank tail = true ∧ AreData children

def AreData : List Elem -> Prop
  | [] => True
  | e :: rest => IsData e ∧ AreData rest

end

/-!
## Lists of elements
-/

theorem IsData.tail {e : Elem} (h : IsData e) : isBlank e.tail = true := by
  cases e with
  | node tag attrib text tail children => exact h.right.left

/-- Some lines, each behind the end of a line. -/
def below (ls : List (List Char)) : List Char := ls.flatMap fun line => '\n' :: line

end TemplateXml
end Zabbix
end EsdcFactory
