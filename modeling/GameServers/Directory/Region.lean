namespace GameServers.Directory

inductive Region
  | usEastCoast
  | usWestCoast
  | southAmerica
  | europe
  | asia
  | australia
  | middleEast
  | africa
  | all
  deriving DecidableEq, Repr

namespace Region

def code : Region → UInt8
  | usEastCoast => 0
  | usWestCoast => 1
  | southAmerica => 2
  | europe => 3
  | asia => 4
  | australia => 5
  | middleEast => 6
  | africa => 7
  | all => 0xff

theorem code_injective {a b : Region} (h : a.code = b.code) : a = b := by
  cases a <;> cases b <;> first | rfl | cases h

def describe : Region → String
  | usEastCoast => "UsEastCoast"
  | usWestCoast => "UsWestCoast"
  | southAmerica => "SouthAmerica"
  | europe => "Europe"
  | asia => "Asia"
  | australia => "Australia"
  | middleEast => "MiddleEast"
  | africa => "Africa"
  | all => "All"

def names : List (String × Region) :=
  [("us-east", usEastCoast), ("us-west", usWestCoast), ("south-america", southAmerica),
   ("europe", europe), ("asia", asia), ("australia", australia), ("middle-east", middleEast),
   ("africa", africa), ("all", all)]

def parse (s : String) : Except String Region :=
  let name := s.map Char.toLower
  match names.lookup name with
  | some region => .ok region
  | none => .error ("unknown region '" ++ name ++ "'")

end Region

end GameServers.Directory
