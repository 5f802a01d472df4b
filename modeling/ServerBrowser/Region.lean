import ServerBrowser.Fault

/-!
# Regions

A query names one region of the world by a byte, or all of them.
-/

namespace ServerBrowser

/-- The regions that a query can ask for. -/
inductive Region where
  | usEastCoast
  | usWestCoast
  | southAmerica
  | europe
  | asia
  | australia
  | middleEast
  | africa
  | all
deriving DecidableEq, Repr

namespace Region

/-- The byte of a region. -/
def code : Region → Nat
  | usEastCoast => 0x00
  | usWestCoast => 0x01
  | southAmerica => 0x02
  | europe => 0x03
  | asia => 0x04
  | australia => 0x05
  | middleEast => 0x06
  | africa => 0x07
  | all => 0xFF

/-- The name of a region. -/
def name : Region → String
  | usEastCoast => "US_EAST_COAST"
  | usWestCoast => "US_WEST_COAST"
  | southAmerica => "SOUTH_AMERICA"
  | europe => "EUROPE"
  | asia => "ASIA"
  | australia => "AUSTRALIA"
  | middleEast => "MIDDLE_EAST"
  | africa => "AFRICA"
  | all => "ALL"

/-- The region of a byte. -/
def ofCode : Int → Except Fault Region
  | 0x00 => .ok usEastCoast
  | 0x01 => .ok usWestCoast
  | 0x02 => .ok southAmerica
  | 0x03 => .ok europe
  | 0x04 => .ok asia
  | 0x05 => .ok australia
  | 0x06 => .ok middleEast
  | 0x07 => .ok africa
  | 0xFF => .ok all
  | code => .error (.unknownRegion code)

end Region

end ServerBrowser
