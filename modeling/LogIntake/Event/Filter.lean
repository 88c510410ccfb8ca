import LogIntake.Event.Basic
import LogIntake.Text.Lowercase

/-!
# Filtering events by text

* `TextFilter`: keeps the events whose text holds a query, in whatever case.
* `TextFilter.ofExpression?`: the filter of a receiver, if it has one.
-/

namespace LogIntake

/-- A query in small letters. -/
structure TextFilter where
  query : List Char
deriving DecidableEq, Repr

namespace TextFilter

/-- The filter for a query. -/
def new (query : String) : TextFilter :=
  ⟨Text.lowercase query.toList⟩

/-- The filter for an expression; one of white space is no filter. -/
def ofExpression? (expression : Option String) : Option TextFilter :=
  match (expression.map fun e => Text.trim e.toList) with
  | none | some [] => none
  | some query => some (new (String.ofList query))

/-- Whether the text of an event holds the query. -/
def accepts (filter : TextFilter) (zone : Calendar.Zone) (e : Event) : Bool :=
  Text.hasInfix filter.query (Text.lowercase (e.searchable zone Calendar.timeColumn).toList)

/-- The events that a filter keeps, in their order; no filter keeps all. -/
def select (filter : Option TextFilter) (zone : Calendar.Zone) (events : List Event) :
    List Event :=
  match filter with
  | none => events
  | some filter => events.filter (filter.accepts zone)

end TextFilter

end LogIntake
