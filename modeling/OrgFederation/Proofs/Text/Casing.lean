import Mathlib.Data.List.Forall2

namespace OrgFederation.Text

end OrgFederation.Text
