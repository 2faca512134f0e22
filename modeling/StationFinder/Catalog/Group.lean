/-!
# Module groups

A module record may leave out the name of its module and give the code of a group instead; the module then goes
by the name of the group.
-/

namespace StationFinder.Catalog

/-- The group codes with the names they stand for. -/
def groupNames : List (String × String) := [
  ("pp", "power plant"), ("t", "thrusters"), ("fd", "frame shift drive"), ("ls", "life support"),
  ("pd", "power distributor"), ("s", "sensors"), ("ft", "fuel tank"),
  ("fs", "fuel scoop"), ("sc", "scanner"), ("am", "auto field-maintenance unit"), ("cr", "cargo rack"),
  ("fi", "frame shift drive interdictor"), ("hb", "hatch breaker limpet controller"),
  ("hr", "hull reinforcement package"), ("rf", "refinery"), ("scb", "shield cell bank"),
  ("sg", "shield generator"), ("psg", "prismatic shield generator"), ("dc", "docking computer"),
  ("fx", "fuel transfer limpet controller"), ("pc", "prospector limpet controller"),
  ("cc", "collector limpet controller"),
  ("bl", "beam laser"), ("ul", "burst laser"), ("c", "cannon"), ("cs", "cargo scanner"),
  ("cm", "countermeasure"), ("fc", "fragment cannon"), ("ws", "frame shift wake scanner"),
  ("kw", "kill warrant scanner"), ("nl", "mine launcher"), ("ml", "mining laser"), ("mr", "missile rack"),
  ("pa", "plasma accelerator"), ("mc", "multi-cannon"), ("pl", "pulse laser"), ("rg", "rail gun"),
  ("sb", "shield booster"), ("tp", "torpedo pylon")]

/-- The name that a group code stands for. Codes are exact: neither case nor blanks are forgiven. -/
def groupName? (code : String) : Option String := groupNames.lookup code

end StationFinder.Catalog
