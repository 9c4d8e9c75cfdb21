import Columnar.Proofs.Json.Spelled
import Columnar.Proofs.Writable

namespace Columnar

namespace Value

end Value

namespace Json
open Value

end Json
end Columnar
