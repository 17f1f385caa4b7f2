import IiotMonitoring.Server.Contract

/-!
# Building topics

`topic` of `contracts/mqtt_topics.py`.
-/

namespace IiotMonitoring

/-- `topic`. The pattern is matched to the end of the text (`fullmatch`). -/
def TopicKind.topic (kind : TopicKind) (siteId deviceId : Text) : Except MessageError Text :=
  if !identifierPattern siteId then
    .error (.value "invalid site_id")
  else if !identifierPattern deviceId then
    .error (.value "invalid device_id")
  else
    .ok (codes "iiot/v1/" ++ siteId ++ codes "/" ++ deviceId ++ codes "/" ++ codes kind.text)

end IiotMonitoring
