import DeclBundle.Unicode.Runs

namespace DeclBundle.Unicode

def digitRuns : Runs := .ofDistances [
    "30 A 626 A 86 A C6 A 19C A 76 A 76 A 76 A 76 A 76 A 76 A 76 A 76 A 76 A 60 A 76 A 46 A 116 A",
    "46 A 746 A 26 A 12C A 80 A A6 A 6 A B6 A 56 A 86 A 6 A 89C6 A 2A6 A 26 A C6 A 16 A 56 A 196 A",
    "5316 A 586 A 886 A 32C A 80 A 3C A 90 A 116 A 156 A 76 A 176 A 66 A 66 A 1A6 A 66 A 2F6 A F6 A",
    "46 A 1A6 A 4B06 A 56 A 86 A 6C74 32 940 A 1A6 A 1F6 A 456 A 1296 A"]

def isDigit (c : Char) : Bool :=
  if c.toNat < 128 then c.isDigit else digitRuns.has c.toNat

end DeclBundle.Unicode
