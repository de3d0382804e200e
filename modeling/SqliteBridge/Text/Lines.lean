/-! Lines of a text. A line ends at a line feed, with the carriage return before it
if there is one; a last line may lack its end. -/
namespace SqliteBridge.Text

/-- The lines without their ends. A carriage return elsewhere belongs to its line. -/
def lines : List Char → List (List Char)
  | [] => []
  | '\n' :: rest => [] :: lines rest
  | '\r' :: '\n' :: rest => [] :: lines rest
  | c :: rest =>
    match lines rest with
    | [] => [[c]]
    | line :: more => (c :: line) :: more

end SqliteBridge.Text
