namespace Interpose

-- A table by names, where an entry replaces an earlier one of its name.
def setEntry {β : Type} (table : List (String × β)) (name : String) (b : β) :
    List (String × β) :=
  table.filter (·.1 != name) ++ [(name, b)]

end Interpose
