import KeyAssertion.Text.Digits

/-
  This file defines the status codes of responses, their
  standard phrases, and the message of a response that is not a
  success.

  Key definitions include:
    * `HttpStatus.phrase`
    * `HttpStatus.isSuccess`
    * `HttpStatus.isRedirect`
    * `HttpStatus.Fault`
-/

namespace KeyAssertion

namespace HttpStatus

/- The standard phrases. -/
def phrases : List (Int × String) :=
  [(100, "Continue"), (101, "Switching Protocols"), (102, "Processing"),
    (103, "Early Hints"), (200, "OK"), (201, "Created"),
    (202, "Accepted"), (203, "Non-Authoritative Information"),
    (204, "No Content"), (205, "Reset Content"),
    (206, "Partial Content"), (207, "Multi-Status"),
    (208, "Already Reported"), (226, "IM Used"),
    (300, "Multiple Choices"), (301, "Moved Permanently"),
    (302, "Found"), (303, "See Other"), (304, "Not Modified"),
    (305, "Use Proxy"), (307, "Temporary Redirect"),
    (308, "Permanent Redirect"), (400, "Bad Request"),
    (401, "Unauthorized"), (402, "Payment Required"),
    (403, "Forbidden"), (404, "Not Found"),
    (405, "Method Not Allowed"), (406, "Not Acceptable"),
    (407, "Proxy Authentication Required"), (408, "Request Timeout"),
    (409, "Conflict"), (410, "Gone"), (411, "Length Required"),
    (412, "Precondition Failed"), (413, "Request Entity Too Large"),
    (414, "Request-URI Too Long"), (415, "Unsupported Media Type"),
    (416, "Requested Range Not Satisfiable"),
    (417, "Expectation Failed"), (418, "I'm a teapot"),
    (421, "Misdirected Request"), (422, "Unprocessable Entity"),
    (423, "Locked"), (424, "Failed Dependency"), (425, "Too Early"),
    (426, "Upgrade Required"), (428, "Precondition Required"),
    (429, "Too Many Requests"),
    (431, "Request Header Fields Too Large"),
    (451, "Unavailable For Legal Reasons"),
    (500, "Internal Server Error"), (501, "Not Implemented"),
    (502, "Bad Gateway"), (503, "Service Unavailable"),
    (504, "Gateway Timeout"), (505, "HTTP Version Not Supported"),
    (506, "Variant Also Negotiates"), (507, "Insufficient Storage"),
    (508, "Loop Detected"), (510, "Not Extended"),
    (511, "Network Authentication Required")]

/- The phrase of a code, empty for one that is not standard. -/
def phrase (code : Int) : String :=
  (phrases.lookup code).getD ""

/- Whether a code tells of success. -/
def isSuccess (code : Int) : Bool :=
  200 ≤ code && code ≤ 299

/- Whether a code tells to go to the location given. -/
def isRedirect (code : Int) : Bool :=
  [301, 302, 303, 307, 308].contains code

/- The name of the class of a code. -/
def className (code : Int) : String :=
  if 100 ≤ code ∧ code ≤ 199 then
    "Informational response"
  else if 300 ≤ code ∧ code ≤ 399 then
    "Redirect response"
  else if 400 ≤ code ∧ code ≤ 499 then
    "Client error"
  else if 500 ≤ code ∧ code ≤ 599 then
    "Server error"
  else
    "Invalid status code"

/- A response that is not a success. -/
structure Fault where
  code : Int
  url : String
  location : Option String
deriving DecidableEq, Repr

/- The wording of a fault. -/
def Fault.message (f : Fault) : String :=
  className f.code ++ " '" ++ Text.signedDecimal f.code ++ " "
    ++ phrase f.code ++ "' for url '" ++ f.url ++ "'\n"
    ++ (match f.location with
        | some l => "Redirect location: '" ++ l ++ "'\n"
        | none => "")
    ++ "For more information check: "
    ++ "https://developer.mozilla.org/en-US/docs/Web/HTTP/Status/"
    ++ Text.signedDecimal f.code

end HttpStatus

end KeyAssertion
