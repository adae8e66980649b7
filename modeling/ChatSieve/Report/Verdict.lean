import ChatSieve.Filter
import ChatSieve.Report.Style
import ChatSieve.Text.Lines

/-!
# Verdicts

What is reported of a text that is a filter, and of one that is none.
-/

namespace ChatSieve.Report

open ChatSieve.Text

/-- The report on a filter: its type and its source, and its tree on demand. -/
def valid (colored : Bool) (f : Filter) (debug : Bool) : String :=
  Style.boldGreen.paint colored "valid" ++ " " ++ Style.bold.paint colored "filter" ++ "\n"
    ++ "  type:   " ++ Style.cyan.paint colored f.ty.name ++ "\n"
    ++ "  source: " ++ f.expr.source ++ "\n"
    ++ (if debug then "  debug:  " ++ f.expr.debug Catalogue.declarations ++ "\n" else "")

/-- The lines of a text, each behind two blanks. -/
def indented (text : String) : String :=
  String.join ((charLines text.toList).map fun line => "  " ++ String.ofList line ++ "\n")

/-- The report on a text that is no filter, with the reason. -/
def invalid (colored : Bool) (reason : FilterError) : String :=
  Style.boldRed.paint colored "invalid" ++ " " ++ Style.bold.paint colored "filter" ++ "\n"
    ++ indented reason.message

end ChatSieve.Report
