import SourceIndex.Json.Shape
import SourceIndex.Language

set_option autoImplicit false

namespace SourceIndex

def Language.shape : Shape := .choice (Language.all.map Language.id)

end SourceIndex
