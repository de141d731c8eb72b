import Gradebook.Json.Layout
import Gradebook.Ledger.Dispatch
import Gradebook.Terminal.Request
import Gradebook.Text.Boxed
import Gradebook.Yaml.Layout

/-!
# What is printed

A request prints marked lines, details, headings, tables and documents.  Errors go to the error
output, all else to the output.  Marks and headings are styled where colour is on.
-/

namespace Gradebook.Terminal

def styleEnd : String := "\x1b[0m"

/-- A text in the style of a code.  A style that ends inside the text begins again after it. -/
def styled (colour : Bool) (code text : String) : String :=
  if colour then
    let start := "\x1b[" ++ code ++ "m"
    start ++ (styleEnd ++ start).intercalate (text.splitOn styleEnd) ++ styleEnd
  else text

inductive Print where
  | success (text : String)
  | warning (text : String)
  | info (text : String)
  | wrongAnswer (text : String)
  | error (text : String)
  | failure (text : String)
  | detail (name text : String)
  | heading (title : String)
  | line (text : String)
  | table (headings : List String) (rows : List (List String))
  | noResults
  | json (v : Json.Value)
  | yaml (v : Json.Value)
  | prompt

namespace Print

def marked (colour : Bool) (code mark text : String) : String :=
  styled colour code mark ++ " " ++ text ++ "\n"

def render (colour : Bool) : Print → String
  | success text => marked colour "1;32" "[OK]" text
  | warning text => marked colour "1;33" "[WARN]" text
  | info text => marked colour "1;34" "[INFO]" text
  | wrongAnswer text => marked colour "1;31" "[X]" text
  | error text => marked colour "1;31" "[ERROR]" text
  | failure text => "Error: " ++ text ++ "\n"
  | detail name text => "  " ++ styled colour "36" name ++ ": " ++ text ++ "\n"
  | heading title => "\n" ++ styled colour "1;4" title ++ "\n\n"
  | line text => text ++ "\n"
  | table headings rows => Text.boxed headings rows ++ "\n"
  | noResults => styled colour "2" "No results found." ++ "\n"
  | json v => v.pretty ++ "\n"
  | yaml v => Yaml.layout v
  | prompt => "> "

def isError : Print → Bool
  | error _ | failure _ => true
  | _ => false

def output (colour : Bool) (items : List Print) : String :=
  String.join ((items.filter (!·.isError)).map (render colour))

def errorOutput (colour : Bool) (items : List Print) : String :=
  String.join ((items.filter isError).map (render colour))

end Print

/-- The item that shows a value; a table shows it as JSON. -/
def Format.show (f : Format) (v : Json.Value) : Print :=
  match f with
  | .table | .json => .json v
  | .yaml => .yaml v

/-- The item that shows a table, where it has rows. -/
def Print.tableOf (headings : List String) (rows : List (List String)) : Print :=
  if rows = [] then .noResults else .table headings rows

def Print.ofOutcome (o : Outcome) : Print :=
  match o.tone with
  | .success => .success o.message
  | .wrongAnswer => .wrongAnswer o.message
  | .warning => .warning o.message
  | .ignored => .info o.message
  | .rejected => .error o.message

end Gradebook.Terminal
