import TerseQuery.Query.Basic
import TerseQuery.Failure

/-!
# Deducing the kind of a query

The command verb or the flags `I`, `U` and `D` ask for a kind, and so do operators. A query without such
indicators selects; one whose indicators disagree is refused.
-/
namespace TerseQuery

/-- Something in a query that asks for a kind. -/
structure Indicator where
  kind : QueryKind
  label : String
  deriving DecidableEq, Repr

namespace Query

/-- The flags that ask for a kind. -/
def kindFlags : List (String × QueryKind) :=
  [("I", .insert), ("U", .update), ("D", .delete)]

/-- The indicator that the command is. -/
def commandIndicator? (q : Query) : Option Indicator :=
  q.command.bind fun name =>
    (QueryKind.ofVerb? name).map fun kind => ⟨kind, s!"command '{name}'"⟩

/-- The indicators that the flags are. -/
def flagIndicators (q : Query) : List Indicator :=
  (kindFlags.filter fun flag => q.hasOption flag.1).map fun flag => ⟨flag.2, s!"flag '-{flag.1}'"⟩

/-- How messages call an operator. -/
def operatorLabel (q : Query) (op : OperatorUse) : String :=
  match q.wordOf? op with
  | some word => s!"operator '{op.symbol}' in '{op.sigil}{word}'"
  | none => s!"operator '{op.symbol}'"

/-- The indicators that the operators are; an operator without a kind is none. -/
def operatorIndicators (q : Query) : List Indicator :=
  (q.operators.filter fun op => (QueryKind.ofOperator op.symbol).isDetermined).map fun op =>
    ⟨QueryKind.ofOperator op.symbol, q.operatorLabel op⟩

end Query

/-- The first of some indicators, if they all agree with it. -/
def agree? : List Indicator → Except Failure (Option Indicator)
  | [] => .ok none
  | first :: rest =>
    match rest.find? fun other => other.kind ≠ first.kind with
    | some other => .error (.inconsistentKind first.label other.label)
    | none => .ok (some first)

namespace Query

/-- What is asked for by name: by the command, or by flags if the command is no verb. -/
def explicitIndicator (q : Query) : Except Failure (Option Indicator) :=
  match q.commandIndicator? with
  | some indicator => .ok (some indicator)
  | none => agree? q.flagIndicators

/-- The kind of a query, or why there is none. -/
def deduceKind (q : Query) : Except Failure QueryKind := do
  let explicit ← q.explicitIndicator
  let implicit ← agree? q.operatorIndicators
  match explicit, implicit with
  | none, none => return .select
  | some only, none => return only.kind
  | none, some only => return only.kind
  | some named, some implied =>
    if named.kind ≠ implied.kind then throw (.inconsistentKind named.label implied.label)
    else return named.kind

/-- The query with its kind deduced. -/
def withKind (q : Query) : Except Failure Query :=
  q.deduceKind.map fun kind => { q with kind := some kind }

end Query

end TerseQuery
