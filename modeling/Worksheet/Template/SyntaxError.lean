import Worksheet.Template.Marker
import Worksheet.Template.Position

/-!
The ways in which the blocks of a template can fail to match, and the report that shows an
author where.
-/

namespace Worksheet

/-- Why a template has no parsed form. Each cause carries the place of the marker to blame. -/
inductive SyntaxError
  | unmatchedClose (kind : BlockKind) (enclosing : Option BlockKind) (position : Position)
  | unclosedBlock (kind : BlockKind) (name : String) (position : Position)
  | tooDeep (limit : Nat) (position : Position)
deriving DecidableEq, Repr

namespace SyntaxError

def position : SyntaxError → Position
  | unmatchedClose _ _ p => p
  | unclosedBlock _ _ p => p
  | tooDeep _ p => p

def message : SyntaxError → String
  | unmatchedClose kind _ p => "unmatched " ++ braced ("/" ++ kind.keyword) ++ " at " ++ p.describe
  | unclosedBlock kind name p =>
    "unclosed " ++ braced ("#" ++ kind.keyword ++ " " ++ name) ++ " opened at " ++ p.describe
  | tooDeep limit p => s!"blocks nested deeper than {limit} levels at {p.describe}"

def suggestion : SyntaxError → String
  | unmatchedClose kind (some enclosing) _ =>
    let opened := braced ("#" ++ enclosing.keyword)
    "SUGGESTION: This " ++ braced ("/" ++ kind.keyword) ++ " closes an open " ++ opened ++
      " block.\nClose the inner " ++ opened ++ " with " ++ braced ("/" ++ enclosing.keyword) ++
      " first, or fix the block order.\n"
  | unmatchedClose kind none _ =>
    "SUGGESTION: No block is open here. Remove this " ++ braced ("/" ++ kind.keyword) ++
      " or add the\nmatching " ++ braced ("#" ++ kind.keyword ++ " name") ++ " before it.\n"
  | unclosedBlock kind _ _ =>
    "SUGGESTION: Add " ++ braced ("/" ++ kind.keyword) ++ " where this block should end.\n"
  | tooDeep limit _ =>
    s!"SUGGESTION: Flatten the template so no more than {limit} blocks are nested,\n" ++
      "or raise \x60max_depth\x60 in the configuration file.\n"

end SyntaxError

end Worksheet
