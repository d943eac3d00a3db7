import SortPath.Demo

/-!
# The demonstration program

Prints the lines of the demonstration.
-/

def main : IO Unit := do
  for line in SortPath.Demo.lines do
    IO.println line
