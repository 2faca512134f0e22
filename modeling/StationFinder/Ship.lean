import StationFinder.Fault
import StationFinder.Text.Lower

/-!
# Ships

The hulls that shipyards sell, the names they go by, and sets of them. A name from outside is trimmed, freed of
dots, and then compared with the display names by ASCII case and, in lower case, with the other spellings that
are in use.
-/

namespace StationFinder

/-- A ship hull. -/
inductive Ship where
  | adder
  | anaconda
  | aspExplorer
  | cobraMkIII
  | diamondbackExplorer
  | diamondbackScout
  | eagle
  | federalAssaultShip
  | federalDropship
  | federalGunship
  | ferDeLance
  | hauler
  | imperialClipper
  | imperialCourier
  | imperialEagle
  | orca
  | python
  | sidewinder
  | type6Transporter
  | type7Transporter
  | type9Heavy
  | viper
  | vulture
deriving DecidableEq, Repr

namespace Ship

/-- The hulls in the order in which lists of them are written. -/
def all : List Ship := [
  adder, anaconda, aspExplorer, cobraMkIII, diamondbackExplorer, diamondbackScout, eagle, federalAssaultShip,
  federalDropship, federalGunship, ferDeLance, hauler, imperialClipper, imperialCourier, imperialEagle, orca,
  python, sidewinder, type6Transporter, type7Transporter, type9Heavy, viper, vulture]

theorem mem_all (s : Ship) : s ∈ all := by cases s <;> decide

/-- The display name. -/
def name : Ship → String
  | adder => "Adder"
  | anaconda => "Anaconda"
  | aspExplorer => "Asp Explorer"
  | cobraMkIII => "Cobra Mk III"
  | diamondbackExplorer => "Diamondback Explorer"
  | diamondbackScout => "Diamondback Scout"
  | eagle => "Eagle"
  | federalAssaultShip => "Federal Assault Ship"
  | federalDropship => "Federal Dropship"
  | federalGunship => "Federal Gunship"
  | ferDeLance => "Fer-de-Lance"
  | hauler => "Hauler"
  | imperialClipper => "Imperial Clipper"
  | imperialCourier => "Imperial Courier"
  | imperialEagle => "Imperial Eagle"
  | orca => "Orca"
  | python => "Python"
  | sidewinder => "Sidewinder"
  | type6Transporter => "Type-6 Transporter"
  | type7Transporter => "Type-7 Transporter"
  | type9Heavy => "Type-9 Heavy"
  | viper => "Viper"
  | vulture => "Vulture"

/-- Other spellings, in lower case. -/
def aliases : Ship → List String
  | aspExplorer => ["asp"]
  | cobraMkIII => ["cobra_mk_iii"]
  | diamondbackExplorer => ["diamondback_explorer"]
  | diamondbackScout => ["diamondback", "diamondback_scout"]
  | eagle => ["eagle mk ii"]
  | federalAssaultShip => ["federal_assault_ship"]
  | federalDropship => ["federal_dropship"]
  | federalGunship => ["federal_gunship"]
  | ferDeLance => ["fer_de_lance"]
  | imperialClipper => ["imperial_clipper"]
  | imperialCourier => ["imperial_courier"]
  | imperialEagle => ["imperial_eagle"]
  | sidewinder => ["sidewinder mk i"]
  | type6Transporter => ["type_6_transporter"]
  | type7Transporter => ["type_7_transporter", "type_7_transport"]
  | type9Heavy => ["type_9_heavy"]
  | viper => ["viper mk iii"]
  | _ => []

/-- A name without blanks at its ends and without dots. -/
def normalize (text : String) : String :=
  String.ofList ((Text.trimChars text.toList).filter (· ≠ '.'))

/-- Does the ship go by this normalized name? -/
def goesBy (s : Ship) (normalized : String) : Bool :=
  Text.sameAscii s.name normalized || s.aliases.contains (Text.lower normalized)

/-- The ship that goes by a name. -/
def parse (text : String) : Except Fault Ship :=
  let normalized := normalize text
  match all.find? (·.goesBy normalized) with
  | some ship => .ok ship
  | none => .error (.unknownShip normalized)

end Ship

/-- A set of ships: for each hull, whether it belongs. -/
structure ShipSet where
  has : Ship → Bool

namespace ShipSet

@[ext] theorem ext {a b : ShipSet} (h : ∀ s, a.has s = b.has s) : a = b := by
  cases a; cases b; simpa using funext h

instance : DecidableEq ShipSet := fun a b =>
  if h : ∀ s ∈ Ship.all, a.has s = b.has s then .isTrue (ext fun s => h s (Ship.mem_all s))
  else .isFalse fun e => h fun _ _ => e ▸ rfl

/-- The set of the ships in a list. -/
def ofList (ships : List Ship) : ShipSet := ⟨fun s => decide (s ∈ ships)⟩

@[simp] theorem has_ofList (ships : List Ship) (s : Ship) : (ofList ships).has s = decide (s ∈ ships) := rfl

/-- The members in the order of `Ship.all`. -/
def toList (a : ShipSet) : List Ship := Ship.all.filter a.has

@[simp] theorem mem_toList {a : ShipSet} {s : Ship} : s ∈ a.toList ↔ a.has s = true := by
  simp [toList, Ship.mem_all]

end ShipSet

/-- Names of ships taken apart: the set of those that parse, and the names that do not, in order. -/
def shipsOfNames (names : List String) : ShipSet × List String :=
  (.ofList (names.filterMap fun n => (Ship.parse n).toOption), names.filter fun n => !(Ship.parse n).isOk)

end StationFinder
