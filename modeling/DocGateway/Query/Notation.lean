import DocGateway.Value.Text

/-!
Shell notation for query documents: patterns stand between slashes, any other value is described.
-/

namespace DocGateway.Value

mutual

/-- The shell notation of a document. -/
def shell : Value → String
  | pattern source => "/" ++ source ++ "/i"
  | mapping es => "\x7b" ++ ", ".intercalate (shellEntries es) ++ "\x7d"
  | list xs => "[" ++ ", ".intercalate (shellItems xs) ++ "]"
  | v => v.quoted
termination_by structural v => v

def shellItems : List Value → List String
  | [] => []
  | x :: xs => shell x :: shellItems xs
termination_by structural xs => xs

def shellEntries : List (Value × Value) → List String
  | [] => []
  | (k, v) :: es => (k.quoted ++ ": " ++ shell v) :: shellEntries es
termination_by structural es => es

end

end DocGateway.Value
