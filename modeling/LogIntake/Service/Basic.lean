import LogIntake.Event.Properties
import LogIntake.Net.Socket

/-!
# Services

* `ServiceKey`: what tells one service from another, with an order on keys.
* `Service`: what is known of a service; one that is set up by hand is a service too.
* `Service.property?`: a property that says something.
-/

namespace LogIntake

/-- What tells one service from another. -/
structure ServiceKey where
  type : String
  name : String
deriving DecidableEq, Repr

namespace ServiceKey

/-- The text of a key. -/
def text (key : ServiceKey) : String := key.name ++ " (" ++ key.type ++ ")"

/-- The order of keys: by type, and by name within a type. -/
def precedes (a b : ServiceKey) : Bool :=
  a.type < b.type || a.type = b.type && a.name < b.name

end ServiceKey

/-- What is known of a service. Two such values with one key speak of one service. -/
structure Service where
  key : ServiceKey
  host : String := ""
  port : Nat := 0
  properties : Properties := []
deriving DecidableEq, Repr

namespace Service

/-- The type of the services that are set up by hand. -/
def manualType : String := "manual"

/-- A service that is set up by hand. -/
def manual (name : String) : Service := { key := ⟨manualType, name⟩ }

/-- Whether a service is set up by hand. -/
def isManual (service : Service) : Bool := service.key.type = manualType

/-- The text of a service. -/
def text (service : Service) : String :=
  if service.isManual then service.key.name
  else
    service.key.name ++ " (" ++ service.host ++ ":" ++ portText service.port ++ ", " ++
      service.key.type ++ ")"

/-- The value of a property without the white space around it, if anything is left. -/
def property? (service : Service) (key : String) : Option String :=
  ((service.properties.get? key).map fun value => String.ofList (Text.trim value.toList)).filter
    (· ≠ "")

end Service

end LogIntake
