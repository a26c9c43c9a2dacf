/-
Addresses of servers are joined to paths with a slash, so slashes at their end do not count.
-/

namespace ShardClient

/-- A text without the slashes at its end. -/
def withoutSlashes (s : String) : String :=
  String.ofList (s.toList.reverse.dropWhile (· == '/')).reverse

end ShardClient
