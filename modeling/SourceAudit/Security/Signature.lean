import SourceAudit.Pattern.Notation
import SourceAudit.Security.Risk

/-!
  Signatures of vulnerabilities. A signature is a written pattern that is looked
  for anywhere in a source, comments and literals included, together with what
  is said of a match. They are in the order of the topics of the OWASP list.
-/
namespace SourceAudit

/-- A signature of a vulnerability: how it looks, whether case matters, whether `^` stands for the
start of every line, and what is said of it. -/
structure Signature where
  id : String
  title : String
  description : String
  severity : Risk
  category : String
  weakness : String
  topic : String
  form : String
  suggestion : String
  sample : String := ""
  anyCase : Bool := false
  everyLine : Bool := false
  deriving DecidableEq, Repr

namespace Signature

/-- The pattern of a signature. -/
def pattern (s : Signature) : Pattern := .ofNotation ⟨s.anyCase, s.everyLine⟩ s.form

/-- The signatures that are looked for. -/
def catalogue : List Signature := [
  { id := "broken-access-control-1"
    title := "Missing Authorization Check"
    description := "Functions or endpoints without proper authorization checks"
    severity := .critical
    category := "access-control"
    weakness := "CWE-862"
    topic := "A01:2021 - Broken Access Control"
    form := "@app\\.route[^\\n]*\\n\\s*(?:async\\s+)?def\\b"
    suggestion := "Implement proper authorization checks using decorators or middleware"
    sample := "@app.route('/admin')\n@login_required\ndef admin_panel():\n    ..." },
  { id := "path-traversal"
    title := "Path Traversal Vulnerability"
    description := "File operations using user input without validation"
    severity := .high
    category := "access-control"
    weakness := "CWE-22"
    topic := "A01:2021 - Broken Access Control"
    form :=
      "(?:open|readFile|writeFile|createReadStream|createWriteStream)\\s*\\([^)]*(?:\\$_GET|" ++
      "\\$_POST|request\\.|params\\.|query\\.)"
    suggestion := "Validate and sanitize file paths, use whitelist of allowed paths"
    sample := "safe_path = os.path.join('files', os.path.basename(user_filename))" },
  { id := "weak-crypto-algorithm"
    title := "Weak Cryptographic Algorithm"
    description := "Usage of weak or deprecated cryptographic algorithms"
    severity := .high
    category := "sensitive-data"
    weakness := "CWE-327"
    topic := "A02:2021 - Cryptographic Failures"
    form := "(?:MD5|SHA1|DES|3DES|RC4|ECB)\\s*\\("
    suggestion := "Use strong cryptographic algorithms like AES-256, SHA-256, or bcrypt"
    sample := "bcrypt.hashpw(password.encode('utf-8'), bcrypt.gensalt())" },
  { id := "hardcoded-secrets"
    title := "Hardcoded Secrets"
    description := "API keys, passwords, or secrets hardcoded in source code"
    severity := .critical
    category := "sensitive-data"
    weakness := "CWE-798"
    topic := "A02:2021 - Cryptographic Failures"
    form := "(?:password|secret|key|token|api_key)\\s*=\\s*[\\\"'][^\\\"']\x7b8,\x7d[\\\"']"
    suggestion := "Store secrets in environment variables or secure vault services"
    sample := "API_KEY = os.environ.get('API_KEY')"
    anyCase := true },
  { id := "insecure-random"
    title := "Insecure Random Number Generation"
    description := "Using predictable random number generators for security purposes"
    severity := .medium
    category := "sensitive-data"
    weakness := "CWE-338"
    topic := "A02:2021 - Cryptographic Failures"
    form := "(?:Math\\.random|random\\.randint|rand\\(\\))"
    suggestion := "Use cryptographically secure random number generators"
    sample := "token = secrets.token_urlsafe(32)" },
  { id := "sql-injection-basic"
    title := "SQL Injection Vulnerability"
    description := "SQL queries constructed with string concatenation or formatting"
    severity := .critical
    category := "injection"
    weakness := "CWE-89"
    topic := "A03:2021 - Injection"
    form :=
      "(?:SELECT|INSERT|UPDATE|DELETE).*(?:\\+|%s|%d|f[\\\"'].*\\\x7b.*\\\x7d[\\\"']|\\$\\" ++
      "\x7b|#\\\x7b)"
    suggestion := "Use parameterized queries or prepared statements"
    sample := "cursor.execute(\"SELECT * FROM users WHERE id = %s\", (user_id,))"
    anyCase := true },
  { id := "command-injection"
    title := "Command Injection Vulnerability"
    description := "System commands executed with user input"
    severity := .critical
    category := "injection"
    weakness := "CWE-78"
    topic := "A03:2021 - Injection"
    form :=
      "(?:system|exec|shell_exec|passthru|eval|os\\.system|subprocess\\.call).*(?:\\$_GET|\\$" ++
      "_POST|request\\.|params\\.|query\\.|input\\()"
    suggestion := "Validate input and use safe alternatives like subprocess with shell=False"
    sample := "subprocess.run(['ping', '-c', '1', user_host], capture_output=True, timeout=5)" },
  { id := "ldap-injection"
    title := "LDAP Injection Vulnerability"
    description := "LDAP queries constructed with unsanitized user input"
    severity := .high
    category := "injection"
    weakness := "CWE-90"
    topic := "A03:2021 - Injection"
    form := "ldap.*search.*(?:\\+|f[\\\"'].*\\\x7b.*\\\x7d[\\\"']|\\$\\\x7b)"
    suggestion := "Escape LDAP special characters and use parameterized LDAP queries"
    anyCase := true },
  { id := "xss-reflected"
    title := "Cross-Site Scripting (XSS)"
    description := "User input rendered without proper escaping"
    severity := .high
    category := "xss"
    weakness := "CWE-79"
    topic := "A03:2021 - Injection"
    form :=
      "(?:innerHTML|outerHTML|document\\.write).*(?:\\$_GET|\\$_POST|request\\.|params\\.|ech" ++
      "o)"
    suggestion := "Escape HTML entities and use textContent instead of innerHTML"
    sample := "element.textContent = userInput;" },
  { id := "missing-rate-limiting"
    title := "Missing Rate Limiting"
    description := "API endpoints without rate limiting protection"
    severity := .medium
    category := "security-config"
    weakness := "CWE-770"
    topic := "A04:2021 - Insecure Design"
    form := "@app\\.route[^\\n]*\\n(?![^\\n]*(?:rate_limit|limiter|throttle))[^\\n]*\\bdef\\b"
    suggestion := "Implement rate limiting to prevent abuse and DoS attacks"
    sample := "@app.route(\"/api/login\")\n@limiter.limit(\"5 per minute\")\ndef login():" },
  { id := "debug-mode-production"
    title := "Debug Mode Enabled in Production"
    description := "Debug mode or verbose error reporting enabled"
    severity := .high
    category := "security-config"
    weakness := "CWE-489"
    topic := "A05:2021 - Security Misconfiguration"
    form := "(?:DEBUG\\s*=\\s*True|debug\\s*=\\s*true|app\\.run.*debug\\s*=\\s*True)"
    suggestion := "Disable debug mode in production and configure proper error handling"
    sample := "DEBUG = os.environ.get('DEBUG', 'False').lower() == 'true'"
    anyCase := true },
  { id := "default-credentials"
    title := "Default or Weak Credentials"
    description := "Usage of default or weak credentials"
    severity := .critical
    category := "authentication"
    weakness := "CWE-521"
    topic := "A05:2021 - Security Misconfiguration"
    form :=
      "(?:password|passwd|pwd)\\s*[:=]\\s*[\\\"'](?:admin|password|123456|root|test|guest|use" ++
      "r)[\\\"']"
    suggestion := "Use strong, unique credentials and enforce password policies"
    sample := "DB_PASSWORD = os.environ.get('DB_PASSWORD')"
    anyCase := true },
  { id := "outdated-dependencies"
    title := "Potentially Outdated Dependencies"
    description := "Import statements that may indicate outdated libraries"
    severity := .medium
    category := "security-config"
    weakness := "CWE-1104"
    topic := "A06:2021 - Vulnerable and Outdated Components"
    form := "(?:import|require|from).*(?:jquery.*1\\.|flask.*0\\.|django.*[12]\\.|express.*3\\.)"
    suggestion := "Regularly update dependencies and use dependency vulnerability scanners"
    sample := "pip-audit\nnpm audit"
    anyCase := true },
  { id := "weak-session-config"
    title := "Weak Session Configuration"
    description := "Insecure session configuration"
    severity := .high
    category := "authentication"
    weakness := "CWE-384"
    topic := "A07:2021 - Identification and Authentication Failures"
    form := "session.*(?:httponly\\s*=\\s*false|secure\\s*=\\s*false|samesite\\s*=\\s*none)"
    suggestion := "Configure secure session settings with HttpOnly, Secure, and SameSite flags"
    sample := "app.config['SESSION_COOKIE_SECURE'] = True"
    anyCase := true },
  { id := "missing-mfa"
    title := "Missing Multi-Factor Authentication"
    description := "Authentication without multi-factor authentication for sensitive operations"
    severity := .medium
    category := "authentication"
    weakness := "CWE-308"
    topic := "A07:2021 - Identification and Authentication Failures"
    form := "^(?!.*(?:mfa|2fa|totp|otp)).*(?:login|authenticate|signin)"
    suggestion := "Implement multi-factor authentication for sensitive operations"
    sample := "pyotp.TOTP(user.secret_key).verify(token)"
    anyCase := true
    everyLine := true },
  { id := "insecure-deserialization"
    title := "Insecure Deserialization"
    description := "Deserializing untrusted data without validation"
    severity := .critical
    category := "deserialization"
    weakness := "CWE-502"
    topic := "A08:2021 - Software and Data Integrity Failures"
    form := "(?:pickle\\.loads?|yaml\\.load\\b|unserialize|ObjectInputStream)"
    suggestion := "Avoid deserializing untrusted data or use safe serialization formats"
    sample := "data = json.loads(user_input)" },
  { id := "insufficient-logging"
    title := "Insufficient Security Logging"
    description := "Missing security event logging"
    severity := .medium
    category := "logging"
    weakness := "CWE-778"
    topic := "A09:2021 - Security Logging and Monitoring Failures"
    form := "^(?!.*(?:log|audit)).*(?:login|authentication|authorization|access)"
    suggestion := "Implement comprehensive security logging for audit trails"
    sample := "security_logger.info(\"Successful login for user: %s\", username)"
    anyCase := true
    everyLine := true },
  { id := "log-injection"
    title := "Log Injection Vulnerability"
    description := "User input logged without sanitization"
    severity := .medium
    category := "logging"
    weakness := "CWE-117"
    topic := "A09:2021 - Security Logging and Monitoring Failures"
    form := "log.*(?:\\+|f[\\\"'].*\\\x7b.*\\\x7d[\\\"']).*(?:request\\.|params\\.|input)"
    suggestion := "Sanitize user input before logging to prevent log injection"
    sample := "logger.info(\"User input: %s\", safe_input)" },
  { id := "ssrf-vulnerability"
    title := "Server-Side Request Forgery (SSRF)"
    description := "HTTP requests to URLs controlled by user input"
    severity := .high
    category := "injection"
    weakness := "CWE-918"
    topic := "A10:2021 - Server-Side Request Forgery (SSRF)"
    form := "(?:requests\\.get|urllib\\.request|fetch|axios\\.get).*(?:request\\.|params\\.|input)"
    suggestion := "Validate and whitelist allowed URLs, use URL parsing to prevent SSRF"
    sample := "if is_safe_url(user_url):\n    response = requests.get(user_url, timeout=5)" }]

/-- The signatures of a category. -/
def ofCategory (category : String) : List Signature :=
  catalogue.filter fun s => s.category == category

/-- The signatures of a degree of risk, given by name. -/
def ofSeverity (severity : String) : List Signature :=
  catalogue.filter fun s => s.severity.name == severity

/-- The signatures with their patterns. -/
def readied : List (Signature × Pattern) := catalogue.map fun s => (s, s.pattern)

end Signature
end SourceAudit
