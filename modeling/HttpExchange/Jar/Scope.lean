import HttpExchange.Url

/-! # The scope of cookies

    Which hosts and paths a cookie is for.  A domain covers itself and every
    host below it; a path covers itself and everything below it, where paths
    are cut at slashes only. -/

namespace HttpExchange.Jar

open Text

/-- A domain as it is compared: without points in front and in lower case. -/
def domainForm (domain : String) : String :=
  String.ofList (lower (trimStartBy (· == '.') domain.toList))

/-- Is the host the domain or below it? -/
def domainMatch (host domain : String) : Bool :=
  host == domain || ('.' :: domain.toList).isSuffixOf host.toList

/-- Is the request's path the cookie's path or below it? -/
def pathMatch (request path : String) : Bool :=
  if request = path then true
  else if path.toList.isPrefixOf request.toList then
    path.toList.getLast? == some '/' || (request.toList.drop path.toList.length).head? == some '/'
  else false

/-- The path of a cookie that does not give one: the request's path up to its
    last slash. -/
def defaultPath (request : String) : String :=
  let cs := request.toList
  if cs.head? ≠ some '/' ∨ cs.count '/' = 1 then "/"
  else String.ofList ((partitionLast '/' cs).1.getD [])

/-- The path of a request; an empty one is the root. -/
def requestPath (u : Url) : String := if u.path.isEmpty then "/" else u.path

end HttpExchange.Jar
