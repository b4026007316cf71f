import StructGen.Proofs.RawLiteral
import StructGen.Proofs.StructTag

namespace StructGen

end StructGen
