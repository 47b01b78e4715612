import Gamebook.Proofs.Play.Passage
import Gamebook.Proofs.Session.Refusal
import Gamebook.Proofs.Session.Settled

/-! What a way that has been gone to its end leaves behind.

The event of an arrival can lead anywhere, and further ways are gone inside of it. The outer way is told
apart from these by its own part of the history: its fare, its move, one selection, and an ending that
shows the live state, and the exits only if nothing was offered since the move.
-/

set_option autoImplicit false

namespace Gamebook

open Happening

namespace Play

variable {s : Setting}

end Play

end Gamebook
