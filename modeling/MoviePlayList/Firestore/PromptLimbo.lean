import MoviePlayList.Firestore.SyncEngine

/-!
# PromptLimbo — when every document in limbo is resolved at once

As long as there are never more documents in limbo than may be resolved at a time, none waits, and
the remote store listens to those that were not rejected and to no others.  As soon as there are
more, one of them waits, and if it leaves limbo before its turn comes the remote store listens to it
all the same.
-/

namespace MoviePlayList
namespace Firestore
namespace Core
namespace SyncEngine

variable {κ : Type} [Ord κ] [Std.TransOrd κ] [Std.LawfulEqOrd κ]

/-! ## While there are not too many -/

variable [DecidableEq κ]

/-- With room for one, a document that leaves limbo while it waits is resolved all the same. -/
example :
    (Transition.run step (init 1) [.listen 2, .limbo 2 (.ofList ["a", "b"]),
      .limbo 2 (.ofList ["a"]), .limbo 2 ∅]).map
        (fun s => (s.limboDocuments, s.listenTargets.toList)) =
      some ([], [(2, .query), (3, .limboResolution "b")]) := by
  decide +kernel

end SyncEngine
end Core
end Firestore
end MoviePlayList
