import NameQuery.Console.Report
import NameQuery.Name.Keyword

/-!
# The keyword reference

A page that shows what each keyword of a finder name does, with an example.
-/

set_option autoImplicit false

namespace NameQuery.Reference

def effect : Keyword → String
  | .all => "Select every column"
  | .one => "Select every column, LIMIT 1"
  | .by => "Following fields become predicates"
  | .and => "The next field becomes a predicate"
  | .ordered => "OrderedBy<Field>[Asc|Desc]"

def sample : Keyword → String
  | .all => "findAll"
  | .one => "findOneById"
  | .by => "findByNameStatus"
  | .and => "findByNameAndStatus"
  | .ordered => "findAllOrderedByIdDesc"

def line (first second third : String) : String :=
  Report.padded 10 first ++ " " ++ Report.padded 40 second ++ " " ++ third ++ "\n"

def page : String :=
  "Finder Keyword Reference\n\n" ++ line "Keyword" "Effect" "Example" ++
    String.ofList (List.replicate 80 '─') ++ "\n" ++
    String.join (Keyword.list.map fun k => line k.word (effect k) (sample k)) ++
    "\nReserved words: " ++ ", ".intercalate (Keyword.list.map Keyword.word) ++ "\n"

end NameQuery.Reference
