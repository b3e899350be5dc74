import Soak.Store.Basic
import Soak.Time.Duration

/-!
# Planned faults

A rehearsal lets chosen calls go wrong.  A rule describes calls by their name, the name of
the container and the id of the item; of the calls of one thread that fit it, it passes
over some and then takes effect on some.
-/

namespace Soak

/-- The name of a call. -/
def Call.name : Call → String
  | createContainer .. => "create_container"
  | openContainer .. => "open_container"
  | closeContainer .. => "close_container"
  | deleteContainer .. => "delete_container"
  | setMetadata .. => "set_metadata"
  | getMetadata .. => "get_metadata"
  | addItem .. => "add_item"
  | getItem .. => "get_item"
  | deleteItem .. => "delete_item"
  | updateItemValue .. => "update_item_value"
  | addAttributes .. => "add_attributes"
  | updateAttributes .. => "update_attributes"
  | deleteAttributes .. => "delete_attributes"
  | openSearch .. => "open_search"
  | fetchNextResults .. => "fetch_next_results"
  | closeSearch .. => "close_search"

/-- The id of the item that a call is about; empty if it is about none. -/
def Call.itemId : Call → String
  | addItem _ _ id _ _ | getItem _ _ id _ | deleteItem _ _ id | updateItemValue _ _ id _
  | addAttributes _ _ id _ | updateAttributes _ _ id _ | deleteAttributes _ _ id _ => id
  | _ => ""

/-- What happens in place of a call. -/
inductive Effect where
  /-- The call fails. -/
  | fail (error : CallError)
  /-- A call that answers with a value answers with this one. -/
  | reply (value : Json)
  /-- The thread panics, perhaps without a message that can be read. -/
  | panic (message : Option String)
  /-- The thread waits, and then the call is made. -/
  | delay (time : Duration)
deriving Repr

/-- A rule for calls that go wrong. -/
structure FaultRule where
  /-- The name of the calls. -/
  call : String
  /-- The container of the calls; any if none is given. -/
  container : Option String
  /-- The item of the calls; any if none is given. -/
  item : Option String
  /-- How many fitting calls of a thread are passed over. -/
  skip : Nat
  /-- How many after those are affected. -/
  times : Nat
  /-- What happens to them. -/
  effect : Effect
deriving Repr

namespace FaultRule

/-- Whether a call on a container fits a rule. -/
def fits (rule : FaultRule) (c : Call) (container : String) : Bool :=
  rule.call = c.name && (rule.container.all fun name => name = container)
    && (rule.item.all fun id => id = c.itemId)

/-- The effect on a call of a thread whose earlier fitting calls were counted for each
rule, and the new counts.  A rule that takes effect keeps the later ones from counting. -/
def apply (c : Call) (container : String) :
    List FaultRule → List Nat → Option Effect × List Nat
  | [], counts => (none, counts)
  | rule :: rules, counts =>
    let before := counts.headD 0
    let others := counts.tailD []
    if rule.fits c container then
      if rule.skip ≤ before && before < rule.skip + rule.times then
        (some rule.effect, (before + 1) :: others)
      else
        let (effect, others) := apply c container rules others
        (effect, (before + 1) :: others)
    else
      let (effect, others) := apply c container rules others
      (effect, before :: others)

end FaultRule

end Soak
