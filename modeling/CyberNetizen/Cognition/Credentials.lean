import CyberNetizen.Application.TaskService
import CyberNetizen.Lib.Regex

namespace CyberNetizen.Cognition

open Application (isSpace)
open Regex

/-- What the language knows about the characters of all scripts: `\w`, `\d` and `casefold`. -/
structure Unicode where
  isWord : Char → Bool
  isDecimal : Char → Bool
  casefold : String → String

def isUpper (c : Char) : Bool := 'A' ≤ c && c ≤ 'Z'

def isDigit (c : Char) : Bool := '0' ≤ c && c ≤ '9'

def isAlphanumeric (c : Char) : Bool := ('a' ≤ c && c ≤ 'z') || isUpper c || isDigit c

/-- `[A-Za-z0-9_-]` -/
def isUrlSafe (c : Char) : Bool := isAlphanumeric c || c = '_' || c = '-'

/-- A letter of a pattern under `(?i)`: its two cases, and the letters of other scripts that share
one of them. -/
def ignoringCase (letter c : Char) : Bool :=
  c.toLower = letter || (letter = 'i' && (c.toNat = 0x130 || c.toNat = 0x131))
    || (letter = 'k' && c.toNat = 0x212A) || (letter = 's' && c.toNat = 0x17F)

def word (s : String) : Pattern := seqs (s.toList.map fun letter ↦ .char (ignoringCase letter))

/-- `begin [ _-]? end` -/
def joined (first last : String) : Pattern :=
  seqs [word first, maybe (.char fun c ↦ c = ' ' || c = '_' || c = '-'), word last]

/-- `(?:RSA |EC |OPENSSH )?PRIVATE KEY-----` -/
def privateKeyLine (tag : String) : Pattern :=
  seqs [chars tag, maybe (alts [chars "RSA ", chars "EC ", chars "OPENSSH "]),
    chars "PRIVATE KEY-----"]

namespace HierarchicalContextCompressor

def credentialAssignment : Pattern :=
  seqs [
    .group 1 (alts [word "密码", word "验证码", word "访问令牌", word "密钥", word "私钥",
      word "助记词", word "银行卡号", word "信用卡号", word "cvv", word "password",
      joined "api" "key", joined "access" "token", joined "secret" "key"]),
    many isSpace,
    maybe (.char fun c ↦ c = '是' || c = '为' || c = ':' || c = '：' || c = '='),
    many isSpace,
    atLeast 4 fun c ↦
      !isSpace c && !(c = '，' || c = '。' || c = '；' || c = ',' || c = ';')]

section patterns

variable (unicode : Unicode)

def skKey (least : ℕ) : Pattern :=
  seqs [boundary unicode.isWord, chars "sk-", atLeast least isUrlSafe, boundary unicode.isWord]

def akiaKey : Pattern :=
  seqs [boundary unicode.isWord, chars "AKIA", exactly 16 fun c ↦ isUpper c || isDigit c,
    boundary unicode.isWord]

def githubToken : Pattern :=
  seqs [boundary unicode.isWord, chars "gh",
    .char fun c ↦ c = 'p' || c = 'o' || c = 'u' || c = 's' || c = 'r', chars "_",
    atLeast 20 isAlphanumeric, boundary unicode.isWord]

def slackToken : Pattern :=
  seqs [boundary unicode.isWord, chars "xox",
    .char fun c ↦ c = 'b' || c = 'a' || c = 'p' || c = 'r' || c = 's', chars "-",
    atLeast 16 fun c ↦ isAlphanumeric c || c = '-', boundary unicode.isWord]

def webToken : Pattern :=
  seqs [boundary unicode.isWord, chars "eyJ", atLeast 10 isUrlSafe, chars ".",
    atLeast 10 isUrlSafe, chars ".", atLeast 10 isUrlSafe, boundary unicode.isWord]

def cardNumber : Pattern :=
  seqs [notAfter unicode.isDecimal,
    .repeat true 13 (some 19)
      (.seq (.char unicode.isDecimal) (maybe (.char fun c ↦ c = ' ' || c = '-'))),
    notBefore unicode.isDecimal]

def privateKey : Pattern :=
  seqs [privateKeyLine "-----BEGIN ", .repeat false 0 none (.char fun _ ↦ true),
    privateKeyLine "-----END "]

def credentialPatterns : List Pattern :=
  [skKey unicode 12, akiaKey unicode, githubToken unicode, slackToken unicode, webToken unicode,
    cardNumber unicode, privateKey]

def omitted : List Char := "[疑似凭据已省略]".toList

def redactionRules : List Rule :=
  ⟨credentialAssignment, fun d ↦ taken 1 d ++ '：' :: omitted⟩ ::
    (credentialPatterns unicode).map fun pattern ↦ ⟨pattern, fun _ ↦ omitted⟩

def redactCredentials (value : String) : String :=
  String.ofList (subAll (redactionRules unicode) value.toList)

def redacts (value : String) : Bool := replaces (redactionRules unicode) value.toList

end patterns

end HierarchicalContextCompressor

end CyberNetizen.Cognition
