/-!
# ThemeMenu.Html

HTML as a tree, and its text. Nodes follow each other without blanks, and a void element closes
itself. Text is escaped, the values of attributes stand as they are; a flag is written only when
it is set.

* `Html`, `Html.render`: a node and its text.
* `Html.escape`: the five characters that text may not hold.
-/

namespace ThemeMenu

inductive HtmlAttribute where
  | value (name value : String)
  | flag (name : String) (set : Bool)
deriving DecidableEq, Repr

inductive Html where
  | text (s : String)
  | element (tag : String) (attributes : List HtmlAttribute) (children : List Html)
  | void (tag : String) (attributes : List HtmlAttribute)

namespace Html

def escape : Char → List Char
  | '&' => "&amp;".toList
  | '<' => "&lt;".toList
  | '>' => "&gt;".toList
  | '"' => "&quot;".toList
  | '\x27' => "&#x27;".toList
  | c => [c]

def escaped (s : String) : String := String.ofList (s.toList.flatMap escape)

/-- An attribute with the blank before it. -/
def attributeText : HtmlAttribute → String
  | .value name value => " " ++ name ++ "=\"" ++ value ++ "\""
  | .flag name true => " " ++ name ++ "=true"
  | .flag _ false => ""

/-- A tag with its attributes, without the brackets. -/
def opening (tag : String) (attributes : List HtmlAttribute) : String :=
  tag ++ String.join (attributes.map attributeText)

mutual

def render : Html → String
  | .text s => escaped s
  | .element tag attributes children =>
    "<" ++ opening tag attributes ++ ">" ++ renderAll children ++ "</" ++ tag ++ ">"
  | .void tag attributes => "<" ++ opening tag attributes ++ "/>"

def renderAll : List Html → String
  | [] => ""
  | h :: hs => render h ++ renderAll hs

end

end Html
end ThemeMenu
