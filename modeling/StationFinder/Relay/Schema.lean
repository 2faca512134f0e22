import StationFinder.Text.Search

/-!
# Schemas

A message names its schema by an address. Messages of two schemas are of interest: the ships that a station sells,
and the modules. Which one a message follows is found out from its raw text: behind the first mark of a schema
reference one of the two addresses, in quotes, has to stand somewhere.
-/

namespace StationFinder

/-- The schemas of interest. -/
inductive Schema where
  | shipyard
  | outfitting
deriving DecidableEq, Repr

namespace Schema

/-- The address by which messages refer to the schema. -/
def address : Schema → String
  | shipyard => "http://schemas.elite-markets.net/eddn/shipyard/1"
  | outfitting => "http://schemas.elite-markets.net/eddn/outfitting/1"

/-- The mark of a schema reference. -/
def mark : String := "\"$schemaRef\":"

/-- Does the address of the schema, in quotes, stand somewhere in a text? -/
def isNamedIn (schema : Schema) (text : List Char) : Bool :=
  Text.occursIn ('"' :: schema.address.toList ++ ['"']) text

/-- The schema that a message follows, if it is one of interest. -/
def classify (text : String) : Option Schema := do
  let rest ← Text.afterFirst mark.toList text.toList
  if shipyard.isNamedIn rest then some shipyard
  else if outfitting.isNamedIn rest then some outfitting
  else none

end Schema

end StationFinder
