/-!
# Listings in messages

How several items stand in one message: between brackets or bare, with commas.
-/

namespace Orchestration
namespace Listing

/-- The items between brackets, a comma and a space apart. -/
def bracketed (items : List String) : String :=
  "[" ++ ", ".intercalate items ++ "]"

/-- The items with a bare comma between them. -/
def commaSeparated (items : List String) : String :=
  ",".intercalate items

end Listing
end Orchestration
