import Minilang.Proofs.Exhibits

namespace Minilang

def Row.label (row : Row) : Text := (row.number?.map Text.decimal).getD []

section
variable {config : Config} {width : Nat} {row : Row}

end

namespace Group
variable {lineCount : Nat} {g : Group} {source : Source}

def numbers (g : Group) (source : Source) : List Nat := (g.rows source).filterMap Row.number?

end Group

namespace Diagnostic
variable {d : Diagnostic} {sources : Sources} {config : Config} {e : Exhibit} {g : Group}

end Diagnostic
end Minilang
