namespace ChainLint.CharName

def afterLead? (lead : String) (name : List Char) : Option (List Char) :=
  if lead.toList.isPrefixOf name then some (name.drop lead.toList.length) else none

end ChainLint.CharName
